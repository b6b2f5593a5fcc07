import Aliquot.Proofs.Centring
import Aliquot.Proofs.Congruence
import Aliquot.Proofs.Range
import Aliquot.Proofs.Simulation.Diophantine
import Mathlib.Tactic.Linarith

/-!
# Overflows of linear congruences

A centred family makes as many pairs as its divisor counts without leaving the range of the type.
The coordinate that is centred stays below the coefficient of the other one, and the equation bounds
that other one. So the residues are all made once the equation is solved and its divisor can be
counted.
-/

namespace Aliquot

open CheckedInt

section Line

variable {least greatest b g u v p q : Int} {i : Nat}

/-- The way to an index below the divisor and one more step make together at most the divisor's
multiple of the step. -/
theorem natAbs_mul_add_le (step : Int) (hi : i < g.natAbs) :
    (step * i).natAbs + step.natAbs ≤ (g * step).natAbs := by
  rw [Int.natAbs_mul, Int.natAbs_mul, Int.natAbs_natCast]
  calc step.natAbs * i + step.natAbs = (i + 1) * step.natAbs := by ring
    _ ≤ g.natAbs * step.natAbs := Nat.mul_le_mul_right _ hi

/-- A coordinate below its step at the index zero stays below the divisor's multiple of the step. -/
theorem natAbs_add_mul_lt {x step : Int} (hx : x.natAbs < step.natAbs) (hi : i < g.natAbs) :
    (x + step * i).natAbs < (g * step).natAbs := by
  have := natAbs_mul_add_le step hi
  omega

/-- A product is bounded by the bound of one factor times what the other one is below. -/
theorem natAbs_mul_le (hu : (u.natAbs : Int) ≤ greatest) (hp : p.natAbs < v.natAbs) :
    ((u * p).natAbs : Int) ≤ greatest * (v.natAbs - 1) := by
  rw [Int.natAbs_mul, Int.natCast_mul]
  exact mul_le_mul hu (by omega) (Int.natCast_nonneg _) (by omega)

/-- In `u*p + v*q = b` the number `q` is in range when `p` is smaller than the positive `v`, even if
`u` and `b` are as far below zero as the range reaches. -/
theorem mem_range_of_line (hle : least ≤ -greatest) (hge : -greatest - 1 ≤ least)
    (hu : least ≤ u ∧ u ≤ greatest) (hb : least ≤ b ∧ b ≤ greatest) (hv : 0 < v)
    (hp : p.natAbs < v.natAbs) (h : u * p + v * q = b) : least ≤ q ∧ q ≤ greatest := by
  have hup : ((u * p).natAbs : Int) ≤ -least * (v.natAbs - 1) := natAbs_mul_le (by omega) hp
  rw [Int.natAbs_of_nonneg hv.le] at hup
  constructor
  · have hhigh : u * p ≤ -least * (v - 1) := by omega
    have : least * v ≤ q * v := by linarith
    exact le_of_mul_le_mul_right this hv
  · have hlow : -(-least * (v - 1)) ≤ u * p := by omega
    have hslack : -least * (v - 1) ≤ (greatest + 1) * (v - 1) :=
      mul_le_mul_of_nonneg_right (by omega) (by omega)
    have : q * v < (greatest + 1) * v := by linarith
    exact Int.lt_add_one_iff.mp (lt_of_mul_lt_mul_right this hv.le)

/-- In `u*p + v*q = b` the number `q` is in range when `p` is smaller than `v`, which is at least
two, and `u` is no further from zero than the greatest number. -/
theorem natAbs_le_of_line (hu : (u.natAbs : Int) ≤ greatest) (hb : (b.natAbs : Int) ≤ greatest + 1)
    (hv : 2 ≤ v.natAbs) (hp : p.natAbs < v.natAbs) (h : u * p + v * q = b) :
    (q.natAbs : Int) ≤ greatest := by
  have hup := natAbs_mul_le hu hp
  have hvq : (v.natAbs : Int) * q.natAbs = (v * q).natAbs := by
    rw [Int.natAbs_mul, Int.natCast_mul]
  have : (v.natAbs : Int) * q.natAbs < v.natAbs * (greatest + 1) := by
    rw [mul_add, mul_one, mul_comm _ greatest]
    rw [mul_sub, mul_one] at hup
    omega
  exact Int.lt_add_one_iff.mp (lt_of_mul_lt_mul_left this (Int.natCast_nonneg _))

end Line

variable {α : Type} [CheckedInt α] {least greatest : Int}

namespace SolutionFamily

variable {t : SolutionFamily Int} {a b m g : Int}

/-- The type holds every number that the pair with an index is made of. -/
structure PairHeld (α : Type) [CheckedInt α] (t : SolutionFamily Int) (i : Int) : Prop where
  index : Holds α i
  moveX : Holds α (t.stepX * i)
  x : Holds α (t.x₀ + t.stepX * i)
  moveY : Holds α (t.stepY * i)
  y : Holds α (t.y₀ + t.stepY * i)

/-- A pair is made when the type holds what it is made of. -/
theorem Reads.at_attains {s : SolutionFamily α} {i : Int} (h : s.Reads t) (hi : t.PairHeld α i) :
    Attains PairReads (s.at i) (t.x₀ + t.stepX * i, t.y₀ + t.stepY * i) := by
  apply hi.index.attains.bind
  intro _ hr
  apply (Attains.mul h.stepX hr hi.moveX).bind
  intro _ hm
  apply (Attains.add h.x₀ hm hi.x).bind
  intro _ hx
  apply (Attains.mul h.stepY hr hi.moveY).bind
  intro _ hm
  apply (Attains.add h.y₀ hm hi.y).bind
  intro _ hy
  exact ⟨_, rfl, hx, hy⟩

section Line

variable {i : Nat}

/-- Along the line of `a*x + m*y = b` the coordinates of the pairs of a centred family are in range,
for the indices below a divisor that leaves room for more than the first pair. -/
theorem AlongLine.coordinates_held (hr : HasRange α least greatest) (hline : t.AlongLine g a m b)
    (hc : t.IsCentred) (hm : 0 < m) (ha : Holds α a) (hb : Holds α b) (hmod : Holds α m)
    (hi : i < g.natAbs) (hg : 2 ≤ g.natAbs) :
    Holds α (t.x₀ + t.stepX * i) ∧ Holds α (t.y₀ + t.stepY * i) := by
  have hle := hr.least_le
  have hge := hr.le_least
  have ha' := hr.holds_iff.mp ha
  have hb' := hr.holds_iff.mp hb
  have hm' := hr.holds_iff.mp hmod
  have hon := hline.sound i
  rcases hc with hx | hy
  · -- the first coordinate is below the modulus, so the equation bounds the second one
    have hlt := natAbs_add_mul_lt hx hi
    rw [hline.stepX] at hlt
    exact ⟨hr.holds_of_natAbs_le (by omega),
      hr.holds_iff.mpr (mem_range_of_line hle hge ha' hb' hm hlt hon)⟩
  · -- the second one is below the coefficient, which is a multiple of the divisor
    have hlt := natAbs_add_mul_lt hy hi
    rw [hline.stepY, Int.natAbs_neg] at hlt
    have hga : g.natAbs ≤ a.natAbs := Nat.le_of_dvd (by omega)
      (Int.natAbs_dvd_natAbs.mpr ((Int.dvd_neg).mp ⟨_, hline.stepY.symm⟩))
    have hon' := (add_comm ..).trans hon
    refine ⟨hr.holds_of_natAbs_le (natAbs_le_of_line ?_ ?_ (hg.trans hga) hlt hon'),
      hr.holds_iff.mpr ?_⟩ <;> omega

/-- Along the line of `a*x + m*y = b` a type that holds the three numbers and the first pair of a
centred family holds what its pairs with indices below the divisor are made of. -/
theorem AlongLine.pairHeld (hr : HasRange α least greatest) (hline : t.AlongLine g a m b)
    (hc : t.IsCentred) (hm : 0 < m) (ha : Holds α a) (hb : Holds α b) (hmod : Holds α m)
    (hx : Holds α t.x₀) (hy : Holds α t.y₀) (hi : i < g.natAbs) : t.PairHeld α i := by
  have hge := hr.le_least
  have ha' := hr.holds_iff.mp ha
  have hm' := hr.holds_iff.mp hmod
  have hgm := hline.natAbs_divisor_le hm.ne'
  have hmoveX := natAbs_mul_add_le t.stepX hi
  rw [hline.stepX] at hmoveX
  have hmoveY : ((t.stepY * i).natAbs : Int) ≤ greatest := by
    have hle := natAbs_mul_add_le t.stepY hi
    rw [hline.stepY, Int.natAbs_neg] at hle
    by_cases hz : t.stepY = 0
    · rw [hz, Int.zero_mul]
      omega
    · omega
  have hcoord : Holds α (t.x₀ + t.stepX * i) ∧ Holds α (t.y₀ + t.stepY * i) := by
    rcases Nat.eq_zero_or_pos i with rfl | hpos
    · simpa using ⟨hx, hy⟩
    · exact hline.coordinates_held hr hc hm ha hb hmod hi (by omega)
  exact {
    index := hr.holds_of_natAbs_le (by omega)
    moveX := hr.holds_of_natAbs_le (by omega)
    x := hcoord.1
    moveY := hr.holds_of_natAbs_le hmoveY
    y := hcoord.2 }

end Line

end SolutionFamily

namespace Congruence

/-- A residue is made in every type that holds the modulus. -/
theorem residue_attains (hr : HasRange α least greatest) {x m : α} {j k : Int} (hx : Reads x j)
    (hm : Reads m k) (hk : 0 < k) : Attains Reads (residue x m) (j % k) := by
  have hk' := hr.of_reads hm
  have hlt := natAbs_tmod_lt hk.ne' j
  have hint := residue_of_pos hk j
  rw [residue_int hk] at hint
  apply (Attains.rem hx hm hk.ne' (hr.holds_of_natAbs_le (by omega))).bind
  intro _ hmod
  rw [hmod.isNeg_eq]
  split at hint
  · next hneg =>
    rw [if_pos hneg, Except.ok.inj hint]
    rw [isNeg_int] at hneg
    exact Attains.add hmod hm (hr.holds_of_natAbs_le (by omega))
  · next hneg =>
    rw [if_neg hneg, Except.ok.inj hint]
    exact ⟨_, rfl, hmod⟩

section Solved

variable {a b m g : α} {s : SolutionFamily α}

/-- Once the equation is solved, the type holds what the pairs with indices below the divisor are
made of, and its greatest number is no smaller than the divisor. -/
theorem exists_pairHeld (hr : HasRange α least greatest) (hm : 0 < toInt m)
    (h : Diophantine.solve a m b = .ok (s, g)) :
    ∃ t : SolutionFamily Int, s.Reads t ∧ ((toInt g).natAbs : Int) ≤ greatest ∧
      ∀ i : Nat, i < (toInt g).natAbs → t.PairHeld α i := by
  have hsim : Simulates Diophantine.SolutionReads (Diophantine.solve a m b)
      (Diophantine.solve (toInt a) (toInt m) (toInt b)) := Diophantine.solve_simulates rfl rfl rfl
  rw [h] at hsim
  obtain ⟨⟨t, d⟩, ht, hread, hd⟩ := hsim.exists_of_ok
  cases hd
  have hline := Diophantine.alongLine_of_solve ht
  have hc := Diophantine.isCentred_of_solve hm.ne' ht
  have hmod := hr.of_reads (x := m) rfl
  have hgm : (toInt g).natAbs ≤ (toInt m).natAbs := hline.natAbs_divisor_le hm.ne'
  refine ⟨t, hread, by omega, fun i hi ↦ ?_⟩
  exact hline.pairHeld hr hc hm ⟨a, ofInt_toInt a⟩ ⟨b, ofInt_toInt b⟩ ⟨m, ofInt_toInt m⟩
    hread.x₀.holds hread.y₀.holds hi

/-- The pairs with indices below the divisor are made, and so are their residues. -/
theorem exists_residue (hr : HasRange α least greatest) (hm : 0 < toInt m)
    (h : Diophantine.solve a m b = .ok (s, g)) {i : Nat} (hi : i < (toInt g).natAbs) :
    ∃ p k, s.at i = .ok p ∧ residue p.1 m = .ok k := by
  obtain ⟨t, hread, -, hheld⟩ := exists_pairHeld hr hm h
  obtain ⟨p, hp, hx, -⟩ := hread.at_attains (hheld i hi)
  obtain ⟨k, hk, -⟩ := residue_attains hr hx (m := m) rfl hm
  exact ⟨p, k, hp, hk⟩

/-- The residues are listed when the divisor of the equation that was solved can be counted. -/
theorem exists_solve_of_counted (hr : HasRange α least greatest) (hm : 0 < toInt m)
    (h : Diophantine.solve a m b = .ok (s, g)) (hg : (toInt g).natAbs ≤ maxCount) :
    ∃ xs, solve a b m = .ok xs := by
  obtain ⟨t, hs, hle, hheld⟩ := exists_pairHeld hr hm h
  have habs : Holds α ((toInt g).natAbs : Int) :=
    hr.holds_of_natAbs_le (by rwa [Int.natAbs_natCast])
  obtain ⟨n, hn, hread⟩ := Attains.abs (x := g) rfl habs
  have hcount : toCount (toInt n) = .ok (toInt n) := by
    apply if_pos
    rw [hread]
    unfold maxCount at *
    omega
  have hlist : Attains (List.Forall₂ Reads)
      ((List.range (toInt n).toNat).mapM fun i : Nat ↦ residueAt s m i)
      (residues t (toInt m) (toInt n).toNat) := by
    apply Attains.mapM
    intro i hi
    rw [hread, Int.toNat_natCast, List.mem_range] at hi
    apply (hs.at_attains (hheld i hi)).bind
    intro _ hp
    exact residue_attains hr hp.1 rfl hm
  obtain ⟨xs, hxs, -⟩ := hlist
  refine ⟨xs, ?_⟩
  rw [solve_of_pos hm, h]
  simp only [bind, Except.bind, hn, hcount]
  exact hxs

end Solved

/-- Whatever the bounded type with a sign and a positive modulus: once the equation of a congruence
is solved and its divisor can be counted, every pair and every residue is made and the residues are
listed. So a congruence overflows only when its equation does or has more residues than can be
counted. -/
theorem solve_overflows_only_before_residues {r : Rep} (hb : r ≠ .unbounded)
    (hs : r.isUnsigned = false) {a b m : r.Carrier} (hm : 0 < toInt m) :
    (∀ family g, Diophantine.solve a m b = .ok (family, g) → (toInt g).natAbs ≤ 2 ^ 31 - 1 →
      (∃ xs, solve a b m = .ok xs) ∧ ∀ i : Nat, i < (toInt g).natAbs →
        ∃ x y k, family.at i = .ok (x, y) ∧ residue x m = .ok k) ∧
    (FailsWith (solve a b m) .overflow → FailsWith (Diophantine.solve a m b) .overflow ∨
      ∃ family g, Diophantine.solve a m b = .ok (family, g) ∧ 2 ^ 31 - 1 < (toInt g).natAbs) := by
  obtain ⟨least, greatest, hr⟩ := HasRange.exists_of_bounded hb hs
  constructor
  · intro family g hsolve hg
    refine ⟨exists_solve_of_counted hr hm hsolve (by unfold maxCount; omega), fun i hi ↦ ?_⟩
    obtain ⟨⟨x, y⟩, k, hp, hk⟩ := exists_residue hr hm hsolve hi
    exact ⟨x, y, k, hp, hk⟩
  · intro hf
    cases hsolve : Diophantine.solve a m b with
    | error e =>
      rw [solve_of_pos hm, hsolve] at hf
      exact .inl (failsWith_error.mpr (failsWith_error.mp hf))
    | ok family =>
      refine .inr ⟨family.1, family.2, rfl, ?_⟩
      by_contra hg
      obtain ⟨xs, hxs⟩ := exists_solve_of_counted hr hm hsolve (by unfold maxCount; omega)
      exact not_failsWith_ok (hxs ▸ hf)

/-- In eight bits the residues of `126*x ≡ 4` modulo four are listed, although the pairs of the
equation get as far as `(4, -125)`. -/
theorem solve_int8_with_two_residues :
    let r := Rep.fixed (.signed .w8)
    let a : r.Carrier := ⟨126, by decide, by decide⟩
    let m : r.Carrier := ⟨4, by decide, by decide⟩
    let g : r.Carrier := ⟨2, by decide, by decide⟩
    let family : SolutionFamily r.Carrier := {
      x₀ := g
      y₀ := ⟨-62, by decide, by decide⟩
      stepX := g
      stepY := ⟨-63, by decide, by decide⟩ }
    r ≠ .unbounded ∧ r.isUnsigned = false ∧ 0 < toInt m ∧
      Diophantine.solve a m m = .ok (family, g) ∧ (∃ xs, solve a m m = .ok xs) ∧
      ∃ x y k, family.at (1 : Nat) = .ok (x, y) ∧ residue x m = .ok k := by
  intro r a m g family
  have hb : r ≠ .unbounded := by decide
  have hm : 0 < toInt m := by decide
  have hsolve : Diophantine.solve a m m = .ok (family, g) := by decide +kernel
  obtain ⟨hlist, hpair⟩ :=
    (solve_overflows_only_before_residues hb rfl hm).1 family g hsolve (by decide)
  exact ⟨hb, rfl, hm, hsolve, hlist, hpair 1 (by decide)⟩

end Congruence

end Aliquot
