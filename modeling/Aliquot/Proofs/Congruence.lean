import Aliquot.Congruence
import Aliquot.Proofs.Diophantine
import Mathlib.Data.Int.ModEq
import Mathlib.Data.List.Nodup

/-!
# The residues that solve a linear congruence

The pairs of a family with consecutive indices have first coordinates in distinct residue classes
until the classes repeat. An inverse is the only residue that solves its congruence.
-/

namespace Aliquot

open CheckedInt

section Checked

variable {α : Type} [CheckedInt α]

private theorem snd_of_solveWith_eq_ok {a b c : α} {row : Euclid.Row α} {s : SolutionFamily α × α}
    (h : Diophantine.solveWith a b c row = .ok s) : s.2 = row.value := by
  unfold Diophantine.solveWith at h
  simp only [bind, Except.bind, pure, Except.pure] at h
  repeat' split at h
  all_goals cases h
  rfl

/-- A family is only made with a divisor of the constant. -/
theorem Diophantine.dvd_of_solve_eq_ok {a b c : α} {s : SolutionFamily α × α}
    (h : solve a b c = .ok s) : toInt s.2 ∣ toInt c := by
  rw [solve_eq] at h
  obtain ⟨row, -, h⟩ := exists_of_bind_eq_ok h
  split at h
  · split at h <;> cases h
  · obtain ⟨r, hr, h⟩ := exists_of_bind_eq_ok h
    split at h
    · next hz =>
      rw [isZero_iff, toInt_of_rem_eq_ok hr] at hz
      rw [snd_of_solveWith_eq_ok h]
      exact Int.dvd_of_tmod_eq_zero hz
    · cases h

/-- The congruence of an inverse has no other solution than the inverse. -/
theorem Congruence.solve_one (n m : α) : solve n one m = (fun x ↦ [x]) <$> inverse n m := by
  rw [solve_eq, inverse_eq]
  split
  · rfl
  · cases hs : Diophantine.solve n m one with
    | error e => rfl
    | ok s =>
      have hd := Diophantine.dvd_of_solve_eq_ok hs
      rw [toInt_one, ← Int.natAbs_dvd_natAbs, Int.natAbs_one, Nat.dvd_one] at hd
      -- a divisor of one has the absolute value one, which every type represents
      have habs : CheckedInt.abs s.2 = .ok one := by
        rw [CheckedInt.abs_eq, hd, Int.natCast_one, ← toInt_one (α := α), ofInt_toInt]
      have hcount : toCount (toInt (one : α)) = .ok 1 := by
        rw [toInt_one]
        rfl
      simp only [bind, Except.bind, habs, hcount]
      cases hr : residueAt s.1 m 0 <;> simp [hr, bind, Except.bind, pure, Except.pure]

private theorem not_le_zero {m : α} (hm : 0 < toInt m) : ¬le m zero = true := by
  rw [le_iff, toInt_zero]
  exact hm.not_ge

/-- A modulus that is not positive is refused, and named. -/
theorem Congruence.failsFor_badArgument {a b m : α} (hm : toInt m ≤ 0) :
    FailsFor (solve a b m) .badArgument (Text.isLong (toInt m)) := by
  have hle : le m zero = true := by rwa [le_iff, toInt_zero]
  rw [solve_eq, if_pos hle]
  exact ⟨_, rfl, rfl, by simp [Failure.mentionsLong, Failure.integers]⟩

/-- So is one that is not positive for an inverse. -/
theorem Congruence.inverse_failsFor_badArgument {n m : α} (hm : toInt m ≤ 0) :
    FailsFor (inverse n m) .badArgument (Text.isLong (toInt m)) := by
  have hle : le m zero = true := by rwa [le_iff, toInt_zero]
  rw [inverse_eq, if_pos hle]
  exact ⟨_, rfl, rfl, by simp [Failure.mentionsLong, Failure.integers]⟩

/-- With a positive modulus the inverse is the residue of the first pair of its equation. -/
theorem Congruence.inverse_of_pos {n m : α} (hm : 0 < toInt m) :
    inverse n m = Diophantine.solve n m one >>= fun s ↦ residueAt s.1 m 0 := by
  rw [inverse_eq, if_neg (not_le_zero hm)]

/-- With a positive modulus the equation is solved and its divisor counted. -/
theorem Congruence.solve_of_pos {a b m : α} (hm : 0 < toInt m) :
    solve a b m = Diophantine.solve a m b >>= fun s ↦ CheckedInt.abs s.2 >>= fun g ↦
      toCount (toInt g) >>= fun count ↦
        (List.range count.toNat).mapM fun i : Nat ↦ residueAt s.1 m i := by
  rw [solve_eq, if_neg (not_le_zero hm)]

end Checked

namespace Congruence

open Text (isLong)

variable {a b m x : Int}

/-- The residue is the truncating remainder, with the modulus added when it is negative. -/
theorem residue_of_pos (hm : 0 < m) (x : Int) :
    residue x m = if isNeg (x.tmod m) then .ok (x.tmod m + m) else .ok (x.tmod m) := by
  rw [residue, rem_int hm.ne']
  rfl

/-- The residue is the one that is not negative. -/
theorem residue_int (hm : 0 < m) (x : Int) : residue x m = .ok (x % m) := by
  have hlt := Int.emod_lt_of_pos x hm
  rw [residue_of_pos hm, Int.tmod_eq_emod]
  by_cases hx : 0 ≤ x ∨ m ∣ x
  · have hneg : ¬isNeg (x % m) = true := by
      rw [isNeg_int]
      exact (Int.emod_nonneg x hm.ne').not_gt
    rw [if_pos hx, Int.natCast_zero, Int.sub_zero, if_neg hneg]
  · have hneg : isNeg (x % m - m) = true := by
      rw [isNeg_int]
      omega
    rw [if_neg hx, Int.natAbs_of_nonneg hm.le, if_pos hneg, Int.sub_add_cancel]

/-- The residue of the first coordinate with an index. -/
theorem residueAt_int (hm : 0 < m) (s : SolutionFamily Int) (i : Int) :
    residueAt s m i = .ok ((s.x₀ + s.stepX * i) % m) := residue_int hm _

/-- The first coordinates of the first `n` pairs, taken modulo `m`. -/
def residues (s : SolutionFamily Int) (m : Int) (n : Nat) : List Int :=
  (List.range n).map fun i : Nat ↦ (s.x₀ + s.stepX * i) % m

/-- On integers the divisor is counted by its absolute value. -/
theorem solve_int_of_pos (hm : 0 < m) :
    solve a b m = Diophantine.solve a m b >>= fun s ↦ toCount s.2.natAbs >>= fun count ↦
      (List.range count.toNat).mapM fun i : Nat ↦ residueAt s.1 m i :=
  solve_of_pos hm

/-- A congruence has the residues of as many pairs as its divisor counts. -/
theorem solve_of_solve {s : SolutionFamily Int} {g : Int} (hm : 0 < m)
    (hs : Diophantine.solve a m b = .ok (s, g)) (hg : g.natAbs ≤ maxCount) :
    solve a b m = .ok (residues s m g.natAbs) := by
  have hcount : toCount (g.natAbs : Int) = .ok (g.natAbs : Int) := by
    apply if_pos
    unfold maxCount at *
    omega
  rw [solve_int_of_pos hm, hs]
  simp only [bind, Except.bind, hcount, residueAt_int hm, Int.toNat_natCast]
  exact List.mapM_pure ..

/-- The residues in `[0, m)` that solve `a*x ≡ b` modulo `m`, each of them once. -/
structure ListsResidues (xs : List Int) (a b m : Int) : Prop where
  nodup : xs.Nodup
  mem_iff : ∀ x, x ∈ xs ↔ 0 ≤ x ∧ x < m ∧ m ∣ a * x - b

section Line

variable {s : SolutionFamily Int} {g p q : Int}

/-- First coordinates agree modulo `m` just when the divisor divides the distance of their
indices. -/
theorem emod_eq_emod_iff (hm : 0 < m) (hline : s.AlongLine g a m b) (i j : Int) :
    (s.x₀ + s.stepX * i) % m = (s.x₀ + s.stepX * j) % m ↔ g ∣ i - j := by
  have hX := hline.stepX_ne_zero hm.ne'
  have hdiff : s.x₀ + s.stepX * i - (s.x₀ + s.stepX * j) = s.stepX * (i - j) := by ring
  rw [Int.emod_eq_emod_iff_emod_sub_eq_zero, hdiff, ← Int.dvd_iff_emod_eq_zero, ← hline.stepX,
    mul_comm g, Int.mul_dvd_mul_iff_left hX]

/-- No residue occurs twice before the classes repeat. -/
theorem nodup_residues (hm : 0 < m) (hline : s.AlongLine g a m b) :
    (residues s m g.natAbs).Nodup := by
  unfold residues
  apply List.nodup_range.map_on
  intro i hi j hj h
  rw [List.mem_range] at hi hj
  rw [emod_eq_emod_iff hm hline, ← Int.natAbs_dvd_natAbs] at h
  have hzero := Nat.eq_zero_of_dvd_of_lt h (by omega)
  omega

/-- The residues solve the congruence. -/
theorem sound_residues (hm : 0 < m) (hline : s.AlongLine g a m b) {n : Nat}
    (hx : x ∈ residues s m n) : 0 ≤ x ∧ x < m ∧ m ∣ a * x - b := by
  unfold residues at hx
  rw [List.mem_map] at hx
  obtain ⟨i, -, rfl⟩ := hx
  refine ⟨Int.emod_nonneg _ hm.ne', Int.emod_lt_of_pos _ hm, ?_⟩
  refine ⟨-(s.y₀ + s.stepY * i) - a * ((s.x₀ + s.stepX * i) / m), ?_⟩
  rw [Int.emod_def]
  linear_combination hline.sound i

/-- Every class of residues is met before the classes repeat. -/
theorem emod_mem_residues (hm : 0 < m) (hline : s.AlongLine g a m b) (i : Int) :
    (s.x₀ + s.stepX * i) % m ∈ residues s m g.natAbs := by
  have hg := hline.divisor_ne_zero hm.ne'
  have h0 : 0 ≤ i % g.natAbs := Int.emod_nonneg i (by omega)
  have hlt : i % g.natAbs < g.natAbs := Int.emod_lt_of_pos i (by omega)
  unfold residues
  rw [List.mem_map]
  -- the classes repeat with the divisor as their period, whatever its sign
  refine ⟨(i % g.natAbs).toNat, List.mem_range.mpr (by omega), ?_⟩
  rw [emod_eq_emod_iff hm hline, Int.toNat_of_nonneg h0, Int.emod_def, ← Int.natAbs_dvd]
  exact ⟨-(i / g.natAbs), by ring⟩

/-- No solution of the congruence is missing among the residues. -/
theorem complete_residues (hm : 0 < m) (hline : s.AlongLine g a m b) (hr : p * a + q * m = g)
    (h0 : 0 ≤ x) (hlt : x < m) (hx : m ∣ a * x - b) : x ∈ residues s m g.natAbs := by
  have hg := hline.divisor_ne_zero hm.ne'
  obtain ⟨k, hk⟩ := hx
  have hsol : a * x + m * -k = b := by linear_combination hk
  obtain ⟨i, hi, -⟩ := (hline.parametrizes hg hr).complete x (-k) hsol
  have hmem := emod_mem_residues hm hline i
  rw [(SolutionFamily.at_eq_ok_iff.mp hi).1, Int.emod_eq_of_lt h0 hlt] at hmem
  exact hmem

/-- The residues of one round through the classes are the solutions of the congruence. -/
theorem listsResidues (hm : 0 < m) (hline : s.AlongLine g a m b) (hr : p * a + q * m = g) :
    ListsResidues (residues s m g.natAbs) a b m where
  nodup := nodup_residues hm hline
  mem_iff _ := by
    constructor
    · exact sound_residues hm hline
    · rintro ⟨h0, hlt, hx⟩
      exact complete_residues hm hline hr h0 hlt hx

/-- Residues are as many steps apart as their indices. -/
theorem residues_modEq (hm : 0 < m) (hline : s.AlongLine g a m b) {n : Nat} {i : Nat}
    (hi : i < (residues s m n).length) (h0 : 0 < (residues s m n).length) :
    (residues s m n)[i] ≡ (residues s m n)[0] + i * (m / g) [ZMOD m] := by
  have hstep : m / g = s.stepX := by
    rw [← hline.stepX]
    exact Int.mul_ediv_cancel_left _ (hline.divisor_ne_zero hm.ne')
  simp only [residues, List.getElem_map, List.getElem_range, hstep]
  calc (s.x₀ + s.stepX * i) % m
      ≡ s.x₀ + s.stepX * i [ZMOD m] := Int.mod_modEq ..
    _ = s.x₀ + s.stepX * (0 : Nat) + i * s.stepX := by ring
    _ ≡ (s.x₀ + s.stepX * (0 : Nat)) % m + i * s.stepX [ZMOD m] :=
      (Int.mod_modEq ..).symm.add_right _

end Line

/-- There is no residue when the equation has no solution. -/
theorem failsFor_noSolution (hm : 0 < m) (hb : ¬(a.gcd m : Int) ∣ b) :
    FailsFor (solve a b m) .noSolution (isLong a || isLong m || isLong b) := by
  rw [solve_int_of_pos hm]
  exact (Diophantine.failsFor_noSolution hb).bind _

/-- More residues than can be counted are not listed, and their number is named. -/
theorem failsFor_overflow (hm : 0 < m) (hb : (a.gcd m : Int) ∣ b) (hg : maxCount < a.gcd m) :
    FailsFor (solve a b m) .overflow (isLong (a.gcd m)) := by
  obtain ⟨row, s, -, -, hn, hs, -⟩ := Diophantine.exists_solve (.inr hm.ne') hb
  have hcount : toCount (a.gcd m : Int) = .error (.countTooLarge (a.gcd m)) := by
    apply if_neg
    omega
  rw [solve_int_of_pos hm, hs]
  simp only [bind, Except.bind, hn, hcount]
  exact ⟨_, rfl, rfl, by simp [Failure.mentionsLong, Failure.integers]⟩

/-- Other congruences have a list of residues. -/
theorem exists_solve (hm : 0 < m) (hb : (a.gcd m : Int) ∣ b) (hg : a.gcd m ≤ maxCount) :
    ∃ row xs, Euclid.xgcd a m = .ok row ∧ solve a b m = .ok xs ∧ xs.length = a.gcd m ∧
      ListsResidues xs a b m ∧ ∀ i (hi : i < xs.length) (h0 : 0 < xs.length),
        xs[i] ≡ xs[0] + i * (m / row.value) [ZMOD m] := by
  obtain ⟨row, s, hx, hr, hn, hs, hline⟩ := Diophantine.exists_solve (.inr hm.ne') hb
  refine ⟨row, residues s m row.value.natAbs, hx, solve_of_solve hm hs (hn ▸ hg), ?_,
    listsResidues hm hline hr, fun i hi h0 ↦ residues_modEq hm hline hi h0⟩
  rw [residues, List.length_map, List.length_range, hn]

/-- The inverse is the residue whose product with the number leaves one. -/
theorem exists_inverse (hm : 0 < m) (h : a.gcd m = 1) :
    ∃ x, inverse a m = .ok x ∧ 0 ≤ x ∧ x < m ∧ m ∣ a * x - 1 := by
  have hb : (a.gcd m : Int) ∣ 1 := by rw [h, Int.natCast_one]
  have hg : (a.gcd m : Int) ≤ maxCount := by
    rw [h]
    decide
  obtain ⟨row, xs, -, hs, -, hlist, -⟩ := exists_solve hm hb hg
  have hone : solve a 1 m = (fun x ↦ [x]) <$> inverse a m := solve_one a m
  rw [hs] at hone
  cases hi : inverse a m with
  | error e =>
    rw [hi] at hone
    cases hone
  | ok x =>
    rw [hi] at hone
    cases hone
    exact ⟨x, rfl, (hlist.mem_iff x).mp (List.mem_singleton_self x)⟩

/-- Two inverses of one number are congruent. -/
theorem dvd_sub_of_inverse {k : Int} (hx : m ∣ a * x - 1) (hk : m ∣ a * k - 1) : m ∣ x - k := by
  have hdiff : x - k = k * (a * x - 1) - x * (a * k - 1) := by ring
  rw [hdiff]
  exact Int.dvd_sub (Int.dvd_mul_of_dvd_right hx) (Int.dvd_mul_of_dvd_right hk)

/-- An inverse is the only residue that is one. -/
theorem inverse_unique {k : Int} (hx : 0 ≤ x ∧ x < m ∧ m ∣ a * x - 1)
    (hk : 0 ≤ k ∧ k < m ∧ m ∣ a * k - 1) : x = k := by
  obtain ⟨hx₀, hxm, hx⟩ := hx
  obtain ⟨hk₀, hkm, hk⟩ := hk
  rw [← Int.emod_eq_of_lt hx₀ hxm, ← Int.emod_eq_of_lt hk₀ hkm]
  exact Int.emod_eq_emod_iff_emod_sub_eq_zero.mpr
    (Int.emod_eq_zero_of_dvd (dvd_sub_of_inverse hx hk))

/-- A number that shares a divisor with the modulus has no inverse. -/
theorem inverse_failsFor_noSolution (hm : 0 < m) (h : a.gcd m ≠ 1) :
    FailsFor (inverse a m) .noSolution (isLong a || isLong m) := by
  have hb : ¬(a.gcd m : Int) ∣ 1 := by
    rw [Int.natCast_dvd, Int.natAbs_one, Nat.dvd_one]
    exact h
  have hone : solve a 1 m = (fun x ↦ [x]) <$> inverse a m := solve_one a m
  have hfails := failsFor_noSolution hm hb
  rw [hone, Text.isLong_one, Bool.or_false] at hfails
  exact hfails.of_map

/-- The modulus decides on a refusal first, then the divisor on the residues and on their count.
Each refusal is reported for numbers that are written. -/
theorem reports_iff {kind : FaultKind} :
    Reports (solve a b m) kind ↔
      (kind = Category.badArgument.reportKind (isLong m) ∧ m ≤ 0) ∨
      (kind = Category.noSolution.reportKind (isLong a || isLong m || isLong b) ∧
        0 < m ∧ ¬(a.gcd m : Int) ∣ b) ∨
      (kind = Category.overflow.reportKind (isLong (a.gcd m)) ∧
        0 < m ∧ (a.gcd m : Int) ∣ b ∧ maxCount < a.gcd m) := by
  rcases le_or_gt m 0 with hm | hm
  · have hfails : FailsFor (solve a b m) .badArgument (isLong m) := failsFor_badArgument hm
    rw [hfails.reports_iff]
    simp [hm, hm.not_gt]
  · by_cases hb : (a.gcd m : Int) ∣ b
    · rcases le_or_gt (a.gcd m : Int) maxCount with hg | hg
      · obtain ⟨row, xs, -, hs, -⟩ := exists_solve hm hb hg
        rw [hs]
        exact iff_of_false not_reports_ok (by simp [hm.not_ge, hb, hg.not_gt])
      · rw [(failsFor_overflow hm hb hg).reports_iff]
        simp [hm, hm.not_ge, hb, hg]
    · rw [(failsFor_noSolution hm hb).reports_iff]
      simp [hm, hm.not_ge, hb]

/-- The congruence `a*x ≡ b` modulo `m` is refused for a modulus that is not positive, has no
solution when the greatest common divisor of `a` and `m` does not divide `b`, overflows when that
divisor cannot be counted, and otherwise lists each of its residues once, in steps of `m/g`. A
refusal that names an integer too long to be written is reported as the fault to write it. -/
theorem solve_lists_residues (a b m : Int) :
    (Reports (solve a b m) (.failure .badArgument) ↔ m ≤ 0 ∧ ¬isLong m) ∧
    (Reports (solve a b m) (.failure .noSolution) ↔
      0 < m ∧ ¬(a.gcd m : Int) ∣ b ∧ ¬(isLong a ∨ isLong m ∨ isLong b)) ∧
    (Reports (solve a b m) (.failure .overflow) ↔
      0 < m ∧ (a.gcd m : Int) ∣ b ∧ (2 ^ 31 - 1 : Int) < a.gcd m ∧ ¬isLong (a.gcd m)) ∧
    (Reports (solve a b m) .value ↔
      m ≤ 0 ∧ isLong m ∨
      0 < m ∧ ¬(a.gcd m : Int) ∣ b ∧ (isLong a ∨ isLong m ∨ isLong b) ∨
      0 < m ∧ (a.gcd m : Int) ∣ b ∧ (2 ^ 31 - 1 : Int) < a.gcd m ∧ isLong (a.gcd m)) ∧
    (0 < m → (a.gcd m : Int) ∣ b → (a.gcd m : Int) ≤ 2 ^ 31 - 1 →
      ∃ row xs, Euclid.xgcd a m = .ok row ∧ solve a b m = .ok xs ∧ xs.length = a.gcd m ∧
        ListsResidues xs a b m ∧ ∀ i (hi : i < xs.length) (h0 : 0 < xs.length),
          xs[i] ≡ xs[0] + i * (m / row.value) [ZMOD m]) := by
  refine ⟨?_, ?_, ?_, ?_, exists_solve⟩
  · simp only [reports_iff, Category.failure_eq_reportKind_iff]
    simp [and_comm]
  · simp only [reports_iff, Category.failure_eq_reportKind_iff]
    simp [and_assoc, and_comm, and_left_comm]
  · simp only [reports_iff, Category.failure_eq_reportKind_iff]
    simp [and_assoc, and_comm, and_left_comm, maxCount]
  · simp only [reports_iff, Category.value_eq_reportKind_iff]
    simp [or_assoc, and_comm, and_assoc, and_left_comm, maxCount]

/-- The congruence `-4*x ≡ 2` modulo six lists its two residues. -/
theorem solve_four_two_six :
    ∃ row xs, Euclid.xgcd (-4 : Int) 6 = .ok row ∧ solve (-4 : Int) 2 6 = .ok xs ∧
      xs.length = 2 ∧ ListsResidues xs (-4) 2 6 := by
  obtain ⟨row, xs, hx, hs, hn, h, -⟩ :=
    (solve_lists_residues (-4) 2 6).2.2.2.2 (by decide) (by decide) (by decide)
  exact ⟨row, xs, hx, hs, hn, h⟩

/-- A modulus below zero is refused, and for the greatest one that is too long to be written
something else is reported. -/
theorem solve_modulo_minus_long :
    let m : Int := -tenPow Text.digitLimit
    m ≤ 0 ∧ Reports (solve 1 0 m) .value ∧ ¬Reports (solve 1 0 m) (.failure .badArgument) := by
  have hlong : isLong (-tenPow Text.digitLimit) = true :=
    (Text.isLong_neg _).trans Text.isLong_tenPow
  have hm : -(tenPow Text.digitLimit : Int) ≤ 0 := Int.neg_nonpos_of_nonneg (Int.natCast_nonneg _)
  -- the power itself stays out of the argument
  generalize -(tenPow Text.digitLimit : Int) = m at hlong hm ⊢
  refine ⟨hm, ?_, ?_⟩
  · rw [reports_iff, Category.value_eq_reportKind_iff]
    exact .inl ⟨hlong, hm⟩
  · simp only [reports_iff, Category.failure_eq_reportKind_iff]
    simp [hlong]

end Congruence

end Aliquot
