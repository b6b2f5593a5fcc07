import Aliquot.CheckedInt.Basic

/-!
# Greatest common divisors and least common multiples

The greatest common divisor is never negative; the least common multiple has the sign of the
product of the two numbers.

Source: `gcd` and `lcm` in `bezout.euclidean`.
-/

namespace Aliquot.Euclid

open CheckedInt

variable {α : Type} [CheckedInt α]

/-- The last divisor that leaves a remainder of zero, `a` being divided by `b` first. -/
def gcdLoop (a b : α) : Checked α :=
  if _hb : isZero b then .ok a
  else match _h : rem a b with
    | .error e => .error e
    | .ok r => gcdLoop b r
termination_by (toInt b).natAbs
decreasing_by exact natAbs_lt_of_rem_eq_ok _hb _h

/-- The loop of remainders ends at a divisor of zero. -/
theorem gcdLoop_of_isZero {a b : α} (h : isZero b = true) : gcdLoop a b = .ok a := by
  rw [gcdLoop, dif_pos h]

/-- Any other divisor is divided by the remainder that it leaves. -/
theorem gcdLoop_of_not_isZero {a b : α} (h : ¬isZero b = true) :
    gcdLoop a b = rem a b >>= gcdLoop b := by
  rw [gcdLoop, dif_neg h]
  split
  · next he => rw [he]; rfl
  · next hr => rw [hr]; rfl

/-- The greatest common divisor, by repeated remainders of the absolute values. -/
def gcd (a b : α) : Checked α := do
  let a ← abs a
  let b ← abs b
  gcdLoop a b

/-- The least common multiple, as the product divided by the greatest common divisor. -/
def lcm (a b : α) : Checked α := do
  if isZero a && isZero b then throw .lcmOfZeros
  match mul? a b with
  | none => throw (.productOutOfRange (toInt a) (toInt b) (typeName α))
  | some product => quo product (← gcd a b)

/-- The least common multiple of two zeros is refused, then a product that does not fit. -/
theorem lcm_eq (a b : α) :
    lcm a b =
      if isZero a && isZero b then .error .lcmOfZeros
      else match mul? a b with
        | none => .error (.productOutOfRange (toInt a) (toInt b) (typeName α))
        | some product => gcd a b >>= quo product := by
  unfold lcm
  cases isZero a && isZero b <;> rfl

end Aliquot.Euclid
