import Aliquot.CheckedInt.Instances

/-!
# Arithmetic of unbounded integers

The operations of `CheckedInt` on the integers themselves. None of them fails but a division by
zero.
-/

namespace Aliquot.CheckedInt

variable {j k : Int}

/-- The zero test of an integer. -/
theorem isZero_int : isZero k = true ↔ k = 0 := isZero_iff

/-- The test of an integer for negative values. -/
theorem isNeg_int : isNeg k = true ↔ k < 0 := isNeg_iff

/-- The quotient of integers is rounded toward zero. -/
theorem quo_int (h : k ≠ 0) : quo j k = .ok (j.tdiv k) := if_neg h

/-- A multiple of an integer has the other factor as its quotient. -/
theorem quo_mul_int (h : k ≠ 0) (j : Int) : quo (k * j) k = .ok j := by
  rw [quo_int h, Int.mul_tdiv_cancel_left _ h]

/-- The remainder of integers has the sign of the dividend. -/
theorem rem_int (h : k ≠ 0) : rem j k = .ok (j.tmod k) := if_neg h

/-- A remainder is smaller than the divisor. -/
theorem natAbs_tmod_lt (h : k ≠ 0) (j : Int) : (j.tmod k).natAbs < k.natAbs := by
  rw [Int.natAbs_tmod]
  exact Nat.mod_lt _ (Int.natAbs_pos.mpr h)

/-- A remainder is no further from zero than the dividend. -/
theorem natAbs_tmod_le (j k : Int) : (j.tmod k).natAbs ≤ j.natAbs := by
  rw [Int.natAbs_tmod]
  exact Nat.mod_le ..

/-- A remainder lies between zero and the dividend. -/
theorem tmod_between (j k : Int) :
    0 ≤ j.tmod k ∧ j.tmod k ≤ j ∨ j ≤ j.tmod k ∧ j.tmod k ≤ 0 := by
  have hle := natAbs_tmod_le j k
  rcases Int.le_total 0 j with hj | hj
  · have := Int.tmod_nonneg k hj
    omega
  · have := Int.tmod_nonneg k (Int.neg_nonneg_of_nonpos hj)
    rw [Int.neg_tmod] at this
    omega

/-- A quotient by a number that is not negative lies between zero and the dividend. -/
theorem tdiv_between (j : Int) (hk : 0 ≤ k) :
    0 ≤ j.tdiv k ∧ j.tdiv k ≤ j ∨ j ≤ j.tdiv k ∧ j.tdiv k ≤ 0 := by
  have hle := Int.natAbs_tdiv_le_natAbs j k
  rcases Int.le_total 0 j with hj | hj
  · have := Int.tdiv_nonneg hj hk
    omega
  · have := Int.tdiv_nonneg (Int.neg_nonneg_of_nonpos hj) hk
    rw [Int.neg_tdiv] at this
    omega

end Aliquot.CheckedInt
