import Aliquot.Audit.Basic
import Aliquot.Proofs.Audit.Reference
import Aliquot.Proofs.Congruence
import Aliquot.Proofs.Power
import Mathlib.Data.List.Sort

/-!
# Comparisons on unbounded integers

With sound references the unbounded algorithms yield what the references say, but for a count of
residues that overflows and for the inverse modulo one, which the references do not have. A refusal
that names an integer too long to be written ends the comparison.
-/

namespace Aliquot

open CheckedInt
open Text (isLong)

namespace Check

variable {β γ : Type} {name : String} {run : Checked β} {reference? : Option γ}
  {agree : β → γ → Bool} {show₁ : β → Document} {show₂ : γ → Document}

/-- The comparison called `name` agrees, and it did not fail but for the want of a solution. -/
structure Confirms (c : Check) (name : String) : Prop where
  name_eq : c.name = name
  agrees : c.agrees = true
  noSolution : ∀ e, c.outcome = .error e → e = .noSolution

/-- A result that agrees with its reference confirms the algorithm. -/
theorem ofRun_value {x : β} {k : γ} (hx : run = .ok x) (hk : reference? = some k)
    (h : agree x k = true) :
    ∃ c, ofRun name run reference? agree show₁ show₂ = .ok c ∧ c.Confirms name := by
  rw [hx, hk]
  exact ⟨_, rfl, rfl, h, fun e he ↦ nomatch he⟩

/-- A failure whose text can be written is compared by its class. -/
theorem ofRun_failure {c : Category} (h : FailsFor run c false) :
    ofRun name run reference? agree show₁ show₂ = .ok ⟨name,
      c == .noSolution && reference?.isNone, .error c, (reference?.map show₂).getD .null⟩ := by
  obtain ⟨e, rfl, he, hshort⟩ := h
  have hkind : (Fault.failure e).reported.kind = .failure c := by
    rw [Fault.kind_reported_failure he, hshort]
    rfl
  simp [ofRun, hkind]

/-- A failure whose text cannot be written is passed on. -/
theorem ofRun_isUnwritable {c : Category} (h : FailsFor run c true) :
    IsUnwritable (ofRun name run reference? agree show₁ show₂) := by
  obtain ⟨e, rfl, he, hlong⟩ := h
  have hkind : (Fault.failure e).reported.kind = .value := by
    rw [Fault.kind_reported_failure he, hlong]
    rfl
  exact ⟨e, by simp [ofRun, hkind], hlong⟩

/-- The want of a solution confirms the algorithm where the reference has none. -/
theorem ofRun_noSolution (h : FailsFor run .noSolution false) (hk : reference? = none) :
    ∃ c, ofRun name run reference? agree show₁ show₂ = .ok c ∧ c.Confirms name := by
  rw [ofRun_failure h, hk]
  exact ⟨_, rfl, rfl, rfl, fun e he ↦ (Except.error.inj he).symm⟩

/-- The comparison does not agree, as the algorithm overflowed. -/
structure Overflows (c : Check) : Prop where
  agrees : c.agrees = false
  outcome : c.outcome = .error .overflow

/-- An overflow does not agree with any reference. -/
theorem ofRun_overflow (h : FailsFor run .overflow false) :
    ∃ c, ofRun name run reference? agree show₁ show₂ = .ok c ∧ c.Overflows :=
  ⟨_, ofRun_failure h, rfl, rfl⟩

end Check

namespace Audit

/-- Ascending integers have no equal neighbours when none occurs twice. -/
theorem all_zip_tail_iff_nodup {ks : List Int} (h : ks.Pairwise (· ≤ ·)) :
    ((ks.zip ks.tail).all fun (j, k) ↦ j != k) = true ↔ ks.Nodup := by
  induction ks with
  | nil => simp
  | cons j ks ih =>
    cases ks with
    | nil => simp
    | cons k ks =>
      rw [List.pairwise_cons] at h
      have hle := h.2
      rw [List.pairwise_cons] at hle
      have hmem : j ∉ k :: ks ↔ j ≠ k := by
        constructor
        · rintro hj rfl
          exact hj List.mem_cons_self
        · intro hne hj
          have hjk := h.1 k List.mem_cons_self
          rcases List.mem_cons.mp hj with rfl | hj
          · exact hne rfl
          · have := hle.1 j hj
            omega
      rw [List.nodup_cons, hmem, ← ih h.2, List.tail_cons, List.zip_cons_cons, List.all_cons,
        Bool.and_eq_true, bne_iff_ne]
      rfl

/-- The test for distinct integers is exact. -/
theorem allDistinct_iff {ks : List Int} : allDistinct ks = true ↔ ks.Nodup := by
  have hsorted : (ks.mergeSort (· ≤ ·)).Pairwise (· ≤ ·) := List.pairwise_mergeSort' (· ≤ ·) ks
  unfold allDistinct
  rw [all_zip_tail_iff_nodup hsorted]
  exact (List.mergeSort_perm ..).nodup_iff

variable {ref : References} {a b m : Int}

/-- The coefficients are those of a combination. -/
theorem checkCombination_confirms (hr : ref.Sound) (a b : Int) :
    ∃ c, checkCombination ref a b a b = .ok c ∧ c.Confirms "extended_gcd" := by
  obtain ⟨row, hx, hc, hg⟩ := Euclid.exists_xgcd a b
  have hrun : combination a b = .ok (row.value, row.coeff₁, row.coeff₂) := by
    rw [combination, hx]
    rfl
  apply Check.ofRun_value hrun rfl
  rw [Bool.and_eq_true, beq_iff_eq, beq_iff_eq, hr.combine_gcd, hg]
  exact ⟨hc, rfl⟩

/-- The greatest common divisors are the same. -/
theorem checkGcd_confirms (hr : ref.Sound) (a b : Int) :
    ∃ c, checkGcd ref a b a b = .ok c ∧ c.Confirms "gcd" := by
  have hrun : toInt <$> Euclid.gcd a b = .ok (a.gcd b : Int) := by
    rw [Euclid.gcd_int]
    rfl
  apply Check.ofRun_value hrun rfl
  rw [hr.gcd_eq]
  exact beq_self_eq_true _

/-- The least common multiples have the same magnitude. -/
theorem checkLcm_confirms (hr : ref.Sound) (h : a ≠ 0 ∨ b ≠ 0) :
    ∃ c, checkLcm ref a b a b = .ok c ∧ c.Confirms "lcm" := by
  obtain ⟨l, hl, habs⟩ := Euclid.exists_lcm h
  have hrun : toInt <$> Euclid.lcm a b = .ok l := by
    rw [hl]
    rfl
  apply Check.ofRun_value hrun rfl
  rw [hr.lcm_eq, beq_iff_eq, habs]

/-- The first pairs lie on the line, or there is no pair on either side. -/
theorem checkDiophantine_confirms (hr : ref.Sound) (ha : a ≠ 0) (hb : b ≠ 0)
    (hw : (a.gcd b : Int) ∣ m ∨ (isLong a || isLong b || isLong m) = false) :
    ∃ c, checkDiophantine ref a b m a b m = .ok c ∧ c.Confirms "solve_diophantine" := by
  by_cases hm : (a.gcd b : Int) ∣ m
  · obtain ⟨row, s, -, -, -, hs, hline⟩ := Diophantine.exists_solve (.inl ha) hm
    have href : ref.solvable? a b m = some true := if_pos ((hr.isSolvable_iff ha hb).mpr hm)
    have hrun : firstPairs a b m = .ok [(s.x₀ + s.stepX * 0, s.y₀ + s.stepY * 0),
        (s.x₀ + s.stepX * 1, s.y₀ + s.stepY * 1)] := by
      rw [firstPairs, hs]
      rfl
    apply Check.ofRun_value hrun href
    simp only [List.all_cons, List.all_nil, Bool.and_true, Bool.and_eq_true, beq_iff_eq]
    exact ⟨hline.sound 0, hline.sound 1⟩
  · have hrun : FailsFor (firstPairs a b m) .noSolution false :=
      hw.resolve_left hm ▸ (Diophantine.failsFor_noSolution hm).bind _
    have href : ref.solvable? a b m = none := if_neg (mt (hr.isSolvable_iff ha hb).mp hm)
    exact Check.ofRun_noSolution hrun href

/-- Where there is no pair the numbers of the equation have to be written. -/
theorem checkDiophantine_isUnwritable (ref : References) (hm : ¬(a.gcd b : Int) ∣ m)
    (hl : (isLong a || isLong b || isLong m) = true) :
    IsUnwritable (checkDiophantine ref a b m a b m) :=
  Check.ofRun_isUnwritable (hl ▸ (Diophantine.failsFor_noSolution hm).bind _)

/-- The residues are as many as the reference counts, or there is none on either side. -/
theorem checkCongruence_confirms (hr : ref.Sound) (hm : 0 < m)
    (h : ¬((a.gcd m : Int) ∣ b ∧ Congruence.maxCount < a.gcd m))
    (hw : (a.gcd m : Int) ∣ b ∨ (isLong a || isLong m || isLong b) = false) :
    ∃ c, checkCongruence ref a b m a b m = .ok c ∧ c.Confirms "solve_linear_congruence" := by
  by_cases hb : (a.gcd m : Int) ∣ b
  · have hg : (a.gcd m : Int) ≤ Congruence.maxCount := not_lt.mp fun hlt ↦ h ⟨hb, hlt⟩
    obtain ⟨row, xs, -, hs, hlen, hlist, -⟩ := Congruence.exists_solve hm hb hg
    have hrun : List.map toInt <$> Congruence.solve a b m = .ok xs := by
      rw [hs]
      exact congrArg Except.ok (List.map_id xs)
    apply Check.ofRun_value hrun (hr.residueCount?_of_dvd hb)
    have hall : ∀ x ∈ xs, 0 ≤ x ∧ x < m ∧ (a * x - b) % m = 0 := by
      intro x hx
      obtain ⟨h0, hlt, hdvd⟩ := (hlist.mem_iff x).mp hx
      exact ⟨h0, hlt, Int.emod_eq_zero_of_dvd hdvd⟩
    simpa [hlen, allDistinct_iff, hlist.nodup, and_assoc] using hall
  · have hrun : FailsFor (List.map toInt <$> Congruence.solve a b m) .noSolution false :=
      hw.resolve_left hb ▸ (Congruence.failsFor_noSolution hm hb).map _
    exact Check.ofRun_noSolution hrun (hr.residueCount?_of_not_dvd hb)

/-- Where there is no residue the numbers of the congruence have to be written. -/
theorem checkCongruence_isUnwritable (ref : References) (hm : 0 < m)
    (hb : ¬(a.gcd m : Int) ∣ b) (hl : (isLong a || isLong m || isLong b) = true) :
    IsUnwritable (checkCongruence ref a b m a b m) :=
  Check.ofRun_isUnwritable (hl ▸ (Congruence.failsFor_noSolution hm hb).map _)

/-- More residues than can be counted make the comparison overflow, and their number has to be
written. -/
theorem checkCongruence_overflows (ref : References) (hm : 0 < m) (hb : (a.gcd m : Int) ∣ b)
    (hg : Congruence.maxCount < a.gcd m) (hw : isLong (a.gcd m) = false) :
    ∃ c, checkCongruence ref a b m a b m = .ok c ∧ c.Overflows :=
  Check.ofRun_overflow (hw ▸ (Congruence.failsFor_overflow hm hb hg).map _)

/-- It may be too long for that. -/
theorem checkCongruence_isUnwritable_of_count (ref : References) (hm : 0 < m)
    (hb : (a.gcd m : Int) ∣ b) (hg : Congruence.maxCount < a.gcd m)
    (hl : isLong (a.gcd m) = true) : IsUnwritable (checkCongruence ref a b m a b m) :=
  Check.ofRun_isUnwritable (hl ▸ (Congruence.failsFor_overflow hm hb hg).map _)

/-- The inverses are congruent, or there is none on either side. -/
theorem checkInverse_confirms (hr : ref.Sound) (hm : 0 < m) (h : m ≠ 1)
    (hw : a.gcd m = 1 ∨ (isLong a || isLong m) = false) :
    ∃ c, checkInverse ref a m a m = .ok c ∧ c.Confirms "inverse_mod" := by
  by_cases hg : a.gcd m = 1
  · obtain ⟨x, hx, -, -, hinv⟩ := Congruence.exists_inverse hm hg
    have hrun : toInt <$> Congruence.inverse a m = .ok x := by
      rw [hx]
      rfl
    obtain ⟨k, hk⟩ : ∃ k, ref.inverse? a m = some k := by
      rw [← Option.ne_none_iff_exists', Ne, hr.inverse?_eq_none_iff hm]
      omega
    obtain ⟨-, -, href⟩ := hr.inverse?_spec hm hk
    apply Check.ofRun_value hrun hk
    rw [beq_iff_eq]
    exact Int.emod_eq_zero_of_dvd (Congruence.dvd_sub_of_inverse hinv href)
  · have hrun : FailsFor (toInt <$> Congruence.inverse a m) .noSolution false :=
      hw.resolve_left hg ▸ (Congruence.inverse_failsFor_noSolution hm hg).map _
    exact Check.ofRun_noSolution hrun ((hr.inverse?_eq_none_iff hm).mpr (.inl hg))

/-- Where there is no inverse the number and the modulus have to be written. -/
theorem checkInverse_isUnwritable (ref : References) (hm : 0 < m) (hg : a.gcd m ≠ 1)
    (hl : (isLong a || isLong m) = true) : IsUnwritable (checkInverse ref a m a m) :=
  Check.ofRun_isUnwritable (hl ▸ (Congruence.inverse_failsFor_noSolution hm hg).map _)

/-- Modulo one there is an inverse that the reference does not have. -/
theorem checkInverse_one (hr : ref.Sound) (a : Int) :
    ∃ c k, checkInverse ref a 1 a (1 : Int) = .ok c ∧ c.name = "inverse_mod" ∧ c.agrees = false ∧
      c.outcome = .ok k := by
  have hone : (0 : Int) < 1 := by decide
  obtain ⟨x, hx, -⟩ := Congruence.exists_inverse hone (Int.gcd_one_right (a := a))
  have hnone := (hr.inverse?_eq_none_iff (n := a) hone).mpr (.inr rfl)
  refine ⟨⟨"inverse_mod", false, .ok (.int x), .null⟩, _, ?_, rfl, rfl, rfl⟩
  rw [checkInverse, hx, hnone]
  rfl

/-- The powers are congruent. -/
theorem checkPower_confirms (hm : 0 < m) :
    ∃ c, checkPower a b m a b m = .ok c ∧ c.Confirms "power" := by
  obtain ⟨k, hk, hmod⟩ := exists_powMod hm.ne' a b.natAbs
  have hrun : magnitudePower a b m = .ok k := by
    have h : magnitudePower a b m = toInt <$> powMod a (b.natAbs : Int) m := rfl
    rw [h, hk]
    rfl
  apply Check.ofRun_value hrun rfl
  rw [beq_iff_eq, Reference.power_eq]
  exact Int.emod_eq_zero_of_dvd (hmod.trans (Int.mod_modEq ..).symm).symm.dvd

end Audit

end Aliquot
