import Aliquot.Proofs.Congruence
import Aliquot.Proofs.Power
import Aliquot.Proofs.Simulation.Diophantine
import Aliquot.Proofs.Simulation.Power

/-!
# Divisions by zero

A power modulo zero divides by zero, unless its exponent is zero or refused. Nothing else does: on
integers every algorithm ends with a result or a failure of some class, and a run in a bounded type
that does not repeat it overflows.
-/

namespace Aliquot

open CheckedInt

/-- The run divides by zero. -/
def DividesByZero {β : Type} (m : Checked β) : Prop := m = .error .divisionByZero

section Runs

variable {β γ : Type} {m : Checked β} {n : Checked γ} {R : β → γ → Prop}

/-- A run with a result has not divided by zero. -/
theorem not_dividesByZero_of_ok {x : β} (h : m = .ok x) : ¬DividesByZero m := by
  rintro rfl
  cases h

/-- A failure of some class is no division by zero. -/
theorem FailsWith.not_dividesByZero {c : Category} (h : FailsWith m c) : ¬DividesByZero m := by
  rintro rfl
  cases failsWith_error.mp h

/-- A run divides by zero only where the one on integers does. -/
theorem DividesByZero.of_simulates (hm : DividesByZero m) (h : Simulates R m n) :
    DividesByZero n := by
  cases hm
  cases h with
  | overflow he => cases he
  | failure => rfl

end Runs

variable {α : Type} [CheckedInt α]

/-- The extended algorithm divides by numbers other than zero. -/
theorem Euclid.xgcd_not_dividesByZero (a b : α) : ¬DividesByZero (xgcd a b) := by
  intro h
  obtain ⟨row, hrow, -⟩ := exists_xgcd (toInt a) (toInt b)
  exact not_dividesByZero_of_ok hrow (h.of_simulates (xgcd_simulates rfl rfl))

/-- So does the search for a greatest common divisor. -/
theorem Euclid.gcd_not_dividesByZero (a b : α) : ¬DividesByZero (gcd a b) := by
  intro h
  exact not_dividesByZero_of_ok (gcd_int (toInt a) (toInt b))
    (h.of_simulates (gcd_simulates rfl rfl))

/-- A least common multiple is only made with a divisor that is not zero. -/
theorem Euclid.lcm_not_dividesByZero (a b : α) : ¬DividesByZero (lcm a b) := by
  intro h
  replace h := h.of_simulates (lcm_simulates (j := toInt a) (k := toInt b) rfl rfl)
  by_cases hab : toInt a ≠ 0 ∨ toInt b ≠ 0
  · obtain ⟨l, hl, -⟩ := exists_lcm hab
    exact not_dividesByZero_of_ok hl h
  · obtain ⟨ha, hb⟩ : toInt a = 0 ∧ toInt b = 0 := by omega
    rw [ha, hb, lcm_zero_zero] at h
    cases h

/-- An equation with a divisor of zero is refused or has no solution. -/
theorem Diophantine.solve_not_dividesByZero (a b c : α) : ¬DividesByZero (solve a b c) := by
  intro h
  replace h := h.of_simulates
    (solve_simulates (i := toInt a) (j := toInt b) (k := toInt c) rfl rfl rfl)
  by_cases hc : ((toInt a).gcd (toInt b) : Int) ∣ toInt c
  · by_cases hab : toInt a ≠ 0 ∨ toInt b ≠ 0
    · obtain ⟨_, _, -, -, -, hs, -⟩ := exists_solve hab hc
      exact not_dividesByZero_of_ok hs h
    · obtain ⟨ha, hb⟩ : toInt a = 0 ∧ toInt b = 0 := by omega
      rw [ha, hb] at hc h
      rw [Int.zero_dvd.mp hc, solve_zero] at h
      cases h
  · exact (failsFor_noSolution hc).failsWith.not_dividesByZero h

/-- The pairs of a family are made without a division. -/
theorem SolutionFamily.take_not_dividesByZero (s : SolutionFamily α) (start : Int) (n : Nat) :
    ¬DividesByZero (s.take start n) := by
  intro h
  have hs : s.Reads ⟨toInt s.x₀, toInt s.y₀, toInt s.stepX, toInt s.stepY⟩ := ⟨rfl, rfl, rfl, rfl⟩
  exact not_dividesByZero_of_ok (take_int ..) (h.of_simulates (hs.take start n))

namespace Congruence

/-- A congruence divides by a positive modulus. -/
theorem solve_not_dividesByZero (a b m : α) : ¬DividesByZero (solve a b m) := by
  intro h
  rcases le_or_gt (toInt m) 0 with hm | hm
  · exact (failsFor_badArgument hm).failsWith.not_dividesByZero h
  · replace h := h.of_simulates
      (solve_simulates (i := toInt a) (j := toInt b) (k := toInt m) rfl rfl rfl)
    by_cases hb : ((toInt a).gcd (toInt m) : Int) ∣ toInt b
    · rcases le_or_gt ((toInt a).gcd (toInt m) : Int) maxCount with hg | hg
      · obtain ⟨_, xs, -, hs, -⟩ := exists_solve hm hb hg
        exact not_dividesByZero_of_ok hs h
      · exact (failsFor_overflow hm hb hg).failsWith.not_dividesByZero h
    · exact (failsFor_noSolution hm hb).failsWith.not_dividesByZero h

/-- The congruence of an inverse is one without a division by zero. -/
theorem inverse_not_dividesByZero (n m : α) : ¬DividesByZero (inverse n m) := by
  intro h
  apply solve_not_dividesByZero n one m
  rw [solve_one, h]
  rfl

end Congruence

/-- A power divides by zero just when the modulus is zero and the exponent is positive: the first
product is that of one with itself, which every type represents. -/
theorem powMod_dividesByZero_iff (x n m : α) :
    DividesByZero (powMod x n m) ↔ 0 < toInt n ∧ toInt m = 0 := by
  constructor
  · intro h
    replace h := h.of_simulates
      (powMod_simulates (a := toInt x) (e := toInt n) (k := toInt m) rfl rfl rfl)
    rcases lt_trichotomy (toInt n) 0 with hn | hn | hn
    · exact absurd h (powMod_failsFor_badArgument hn _ _).failsWith.not_dividesByZero
    · rw [hn] at h
      exact absurd h (not_dividesByZero_of_ok (powMod_zero _ _))
    · refine ⟨hn, ?_⟩
      by_contra hm
      obtain ⟨k, hk, -⟩ := exists_powMod hm (toInt x) (toInt n).toNat
      rw [Int.toNat_of_nonneg hn.le] at hk
      exact not_dividesByZero_of_ok hk h
  · rintro ⟨hn, hm⟩
    have hneg : ¬isNeg n = true := by
      rw [isNeg_iff]
      omega
    have hzero : ¬isZero n = true := by
      rw [isZero_iff]
      omega
    -- the loop starts with the square of one, which every type has room for
    have htop : ¬le (BitScan.topBit n) zero = true := by
      have := twoPow_pos (toInt n).toNat.log2
      rw [le_iff, toInt_zero, BitScan.toInt_topBit (Int.toNat_of_nonneg hn.le).symm (by omega)]
      omega
    have hsquare : mul? (one : α) one = some one := by
      rw [mul?_eq, mul_eq, toInt_one]
      have hone : (ofInt (1 * 1) : Checked α) = .ok one := by
        rw [ofInt_eq_ok_iff, toInt_one, Int.mul_one]
      rw [hone]
      rfl
    have hmul : mulMod one one m = .error .divisionByZero := by
      rw [mulMod, hsquare]
      change rem one m = _
      rw [rem_eq, if_pos hm]
    rw [DividesByZero, powMod, if_neg hneg, if_neg hzero, powMod.loop_of_not_le htop, hmul]
    rfl

end Aliquot
