import Aliquot.Failure
import Aliquot.Powers
import Aliquot.TwosComplement

/-!
# Checked integer arithmetic

`CheckedInt α` says that the values of `α` stand for integers and that arithmetic on them is exact
or fails. The laws reduce every operation to `ofInt`: what a computation does on `α` is what it does
on integers until a result is not representable. Algorithms that are written against this interface
run on unbounded integers, on fixed-width integers and on signed magnitudes alike.

Source: `Numeric`, the generic operations and `from_small` in `bezout.numeric`.
-/

namespace Aliquot

/-- Types of integers whose arithmetic is exact or fails. -/
class CheckedInt (α : Type) where
  /-- The name of the type. -/
  typeName : String
  /-- The integer that a value stands for. -/
  toInt : α → Int
  /-- The value for an integer, if the type represents it. -/
  ofInt : Int → Checked α
  zero : α
  one : α
  add : α → α → Checked α
  sub : α → α → Checked α
  mul : α → α → Checked α
  /-- The product, or nothing when the type does not represent it. -/
  mul? : α → α → Option α
  neg : α → Checked α
  abs : α → Checked α
  /-- The quotient, rounded toward zero. -/
  quo : α → α → Checked α
  /-- The remainder of the quotient rounded toward zero. -/
  rem : α → α → Checked α
  /-- The conjunction of bit patterns. -/
  land : α → α → α
  /-- The bit pattern moved up. -/
  shl : α → Nat → α
  /-- The bit pattern moved down. -/
  shr : α → Nat → α
  eq : α → α → Bool
  lt : α → α → Bool
  /-- The number of bits in which the value is held. -/
  width : α → Nat
  toInt_of_ofInt_eq_ok : ∀ {k x}, ofInt k = .ok x → toInt x = k
  ofInt_toInt : ∀ x, ofInt (toInt x) = .ok x
  isOverflow_of_ofInt_eq_error : ∀ {k} {e : Failure}, ofInt k = .error e → e.IsOverflow
  exists_ofInt_eq_ok : ∀ {k} {x : α}, 0 ≤ k → k ≤ toInt x → ∃ y, ofInt k = .ok y
  toInt_zero : toInt zero = 0
  toInt_one : toInt one = 1
  add_eq : ∀ x y, add x y = ofInt (toInt x + toInt y)
  sub_eq : ∀ x y, sub x y = ofInt (toInt x - toInt y)
  mul_eq : ∀ x y, mul x y = ofInt (toInt x * toInt y)
  mul?_eq : ∀ x y, mul? x y = (mul x y).toOption
  neg_eq : ∀ x, neg x = ofInt (-toInt x)
  abs_eq : ∀ x, abs x = ofInt (toInt x).natAbs
  quo_eq : ∀ x y,
    quo x y = if toInt y = 0 then .error .divisionByZero else ofInt ((toInt x).tdiv (toInt y))
  rem_eq : ∀ x y,
    rem x y = if toInt y = 0 then .error .divisionByZero else ofInt ((toInt x).tmod (toInt y))
  toInt_land : ∀ {x y}, 0 ≤ toInt x → 0 ≤ toInt y →
    toInt (land x y) = TwosComplement.land (toInt x) (toInt y)
  shl_eq : ∀ {x y k}, 0 ≤ toInt x → ofInt (toInt x * twoPow k) = .ok y → shl x k = y
  toInt_shr : ∀ {x} k, 0 ≤ toInt x → toInt (shr x k) = toInt x / twoPow k
  eq_iff : ∀ {x y}, eq x y = true ↔ toInt x = toInt y
  lt_iff : ∀ {x y}, lt x y = true ↔ toInt x < toInt y
  lt_twoPow_width : ∀ x, toInt x < twoPow (width x)
  exists_width_eq : ∀ x, ∃ j, width x = 8 * twoPow j

namespace CheckedInt

variable {α : Type} [CheckedInt α]

/-- The value is zero. -/
def isZero (x : α) : Bool := eq x zero

/-- The value is below zero. -/
def isNeg (x : α) : Bool := lt x zero

/-- The first value is the smaller one or equal. -/
def le (x y : α) : Bool := lt x y || eq x y

/-- Values with the same integer are equal. -/
theorem toInt_inj {x y : α} : toInt x = toInt y ↔ x = y := by
  refine ⟨fun h ↦ ?_, fun h ↦ h ▸ rfl⟩
  have hx := ofInt_toInt x
  rw [h, ofInt_toInt] at hx
  exact (Except.ok.inj hx).symm

/-- The value for `k` is the one that reads as `k`. -/
theorem ofInt_eq_ok_iff {k : Int} {x : α} : ofInt k = .ok x ↔ toInt x = k :=
  ⟨toInt_of_ofInt_eq_ok, fun h ↦ h ▸ ofInt_toInt x⟩

/-- The zero test tests the integer. -/
theorem isZero_iff {x : α} : isZero x = true ↔ toInt x = 0 := by
  rw [isZero, eq_iff, toInt_zero]

/-- The test for negative values tests the integer. -/
theorem isNeg_iff {x : α} : isNeg x = true ↔ toInt x < 0 := by
  rw [isNeg, lt_iff, toInt_zero]

/-- The weak order is the order of the integers. -/
theorem le_iff {x y : α} : le x y = true ↔ toInt x ≤ toInt y := by
  rw [le, Bool.or_eq_true, lt_iff, eq_iff]
  omega

/-- A remainder reads as the remainder of the integers. -/
theorem toInt_of_rem_eq_ok {x y z : α} (h : rem x y = .ok z) :
    toInt z = (toInt x).tmod (toInt y) := by
  rw [rem_eq] at h
  split at h
  · cases h
  · exact toInt_of_ofInt_eq_ok h

/-- A quotient reads as the quotient of the integers. -/
theorem toInt_of_quo_eq_ok {x y z : α} (h : quo x y = .ok z) :
    toInt z = (toInt x).tdiv (toInt y) := by
  rw [quo_eq] at h
  split at h
  · cases h
  · exact toInt_of_ofInt_eq_ok h

/-- A product reads as the product of the integers. -/
theorem toInt_of_mul_eq_ok {x y z : α} (h : mul x y = .ok z) : toInt z = toInt x * toInt y := by
  rw [mul_eq] at h
  exact toInt_of_ofInt_eq_ok h

/-- A difference reads as the difference of the integers. -/
theorem toInt_of_sub_eq_ok {x y z : α} (h : sub x y = .ok z) : toInt z = toInt x - toInt y := by
  rw [sub_eq] at h
  exact toInt_of_ofInt_eq_ok h

/-- A remainder is smaller than a divisor that is not zero. -/
theorem natAbs_lt_of_rem_eq_ok {x y z : α} (hy : ¬isZero y = true) (h : rem x y = .ok z) :
    (toInt z).natAbs < (toInt y).natAbs := by
  rw [toInt_of_rem_eq_ok h, Int.natAbs_tmod]
  rw [isZero_iff] at hy
  exact Nat.mod_lt _ (by omega)

end CheckedInt

end Aliquot
