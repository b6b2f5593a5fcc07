/-!
# Powers of two and ten

The bases of the two positional systems in use: binary numerals count in powers of two, decimal
numerals in powers of ten.
-/

namespace Aliquot

/-- The `n`-th power of two. -/
def twoPow (n : Nat) : Nat := Nat.pow 2 n

/-- The `n`-th power of ten. -/
def tenPow (n : Nat) : Nat := Nat.pow 10 n

/-- The first power of two is one. -/
@[simp] theorem twoPow_zero : twoPow 0 = 1 := rfl

/-- Each power of two is twice the one before. -/
theorem twoPow_succ (n : Nat) : twoPow (n + 1) = 2 * twoPow n := Nat.mul_comm _ 2

/-- Powers of two are positive. -/
theorem twoPow_pos (n : Nat) : 0 < twoPow n := by
  induction n with
  | zero => decide
  | succ n ih =>
    rw [twoPow_succ]
    omega

/-- Powers of ten are positive. -/
theorem tenPow_pos (n : Nat) : 0 < tenPow n := Nat.pow_pos (by decide)

/-- A product in the exponent gives the power of a power. -/
theorem tenPow_mul (m n : Nat) : tenPow (m * n) = Nat.pow (tenPow m) n := Nat.pow_mul 10 m n

/-- The power of a sum is the product of the powers. -/
theorem twoPow_add (m n : Nat) : twoPow (m + n) = twoPow m * twoPow n := by
  induction n with
  | zero => rw [twoPow_zero, Nat.mul_one, Nat.add_zero]
  | succ n ih => rw [← Nat.add_assoc, twoPow_succ, twoPow_succ, ih, Nat.mul_left_comm]

/-- Powers of two grow with the exponent. -/
theorem twoPow_le_twoPow {m n : Nat} (h : m ≤ n) : twoPow m ≤ twoPow n := by
  obtain ⟨d, rfl⟩ := Nat.exists_eq_add_of_le h
  rw [twoPow_add]
  exact Nat.le_mul_of_pos_right _ (twoPow_pos d)

/-- An exponent below another one gives a smaller power of two. -/
theorem twoPow_lt_twoPow {m n : Nat} (h : m < n) : twoPow m < twoPow n := by
  have := twoPow_le_twoPow h
  rw [Nat.succ_eq_add_one, twoPow_succ] at this
  have := twoPow_pos m
  omega

/-- A positive exponent leaves half of the power for its predecessor. -/
theorem twoPow_eq_two_mul {n : Nat} (h : 0 < n) : twoPow n = 2 * twoPow (n - 1) := by
  rw [← twoPow_succ, Nat.sub_add_cancel h]

end Aliquot
