import Aliquot.Powers

/-!
# Lengths of binary numerals

The bit length of an integer counts the digits of its absolute value. The native width of an
integer is a byte, doubled until there is room for a sign beside those digits. It is the least power
of two, eight or more, that leaves this room.

Source: `bit_width` for plain integers in `bezout.numeric`.
-/

namespace Aliquot

/-- The number of binary digits of the absolute value; zero has none. -/
def bitLength (k : Int) : Nat := if k = 0 then 0 else k.natAbs.log2 + 1

/-- The first of `width`, its double, the double of that and so on, that leaves room for a sign
beside `length` digits. -/
def doubleUntilRoom (length width : Nat) (h : 0 < width) : Nat :=
  if width < length + 1 then doubleUntilRoom length (2 * width) (by omega) else width
termination_by length + 1 - width

/-- A byte, doubled until it leaves room for a sign beside the digits. -/
def nativeWidth (k : Int) : Nat := doubleUntilRoom (bitLength k) 8 (by decide)

/-- An absolute value has no more digits than its bit length. -/
theorem natAbs_lt_twoPow_bitLength (k : Int) : k.natAbs < twoPow (bitLength k) := by
  unfold bitLength
  split
  · next h =>
    rw [h]
    decide
  · exact Nat.lt_log2_self

/-- The bit length is the least number of digits that an absolute value fits in. -/
theorem bitLength_le_iff {k : Int} {n : Nat} : bitLength k ≤ n ↔ k.natAbs < twoPow n := by
  unfold bitLength
  split
  · next h =>
    have hp := twoPow_pos n
    rw [h]
    exact iff_of_true (Nat.zero_le n) hp
  · next h => exact Nat.log2_lt (Int.natAbs_ne_zero.mpr h)

section Doubling

variable {length width : Nat} {h : 0 < width}

/-- There is room when the doubling ends. -/
theorem lt_doubleUntilRoom : length < doubleUntilRoom length width h := by
  fun_induction doubleUntilRoom length width h with
  | case1 width h hlt ih => exact ih
  | case2 width h hge => omega

/-- The width has been doubled some number of times. -/
theorem exists_doubleUntilRoom_eq : ∃ j, doubleUntilRoom length width h = width * twoPow j := by
  fun_induction doubleUntilRoom length width h with
  | case1 width h hlt ih =>
    obtain ⟨j, hj⟩ := ih
    exact ⟨j + 1, by rw [hj, twoPow_succ, Nat.mul_comm 2 width, Nat.mul_assoc]⟩
  | case2 width h hge => exact ⟨0, by rw [twoPow_zero, Nat.mul_one]⟩

/-- It has been doubled no more often than there was need. -/
theorem doubleUntilRoom_le {j : Nat} (hj : length < width * twoPow j) :
    doubleUntilRoom length width h ≤ width * twoPow j := by
  fun_induction doubleUntilRoom length width h generalizing j with
  | case1 width h hlt ih =>
    cases j with
    | zero =>
      rw [twoPow_zero, Nat.mul_one] at hj
      omega
    | succ j =>
      rw [twoPow_succ, ← Nat.mul_assoc, Nat.mul_comm width 2] at hj ⊢
      exact ih hj
  | case2 width h hge => exact Nat.le_mul_of_pos_right width (twoPow_pos j)

end Doubling

/-- The native width exceeds the bit length. -/
theorem bitLength_lt_nativeWidth (k : Int) : bitLength k < nativeWidth k := lt_doubleUntilRoom

/-- The native width is a byte, doubled some number of times. -/
theorem exists_nativeWidth_eq (k : Int) : ∃ j, nativeWidth k = 8 * twoPow j :=
  exists_doubleUntilRoom_eq

/-- No smaller power of two from eight on leaves room for a sign. -/
theorem nativeWidth_le {k : Int} {j : Nat} (h₈ : 8 ≤ twoPow j)
    (h : k.natAbs < twoPow (twoPow j - 1)) : nativeWidth k ≤ twoPow j := by
  have hj : 3 ≤ j := by
    refine Nat.lt_of_not_le fun hj ↦ ?_
    have : twoPow j ≤ twoPow 2 := twoPow_le_twoPow hj
    rw [show twoPow 2 = 4 from rfl] at this
    omega
  have hsplit : twoPow j = 8 * twoPow (j - 3) := by
    rw [show 8 = twoPow 3 from rfl, ← twoPow_add, Nat.add_sub_cancel' hj]
  have hlength := bitLength_le_iff.mpr h
  rw [hsplit] at hlength ⊢
  have := twoPow_pos (j - 3)
  exact doubleUntilRoom_le (by omega)

end Aliquot
