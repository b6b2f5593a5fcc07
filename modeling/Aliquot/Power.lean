import Aliquot.BitScan

/-!
# Powers by squaring

The binary digits of the exponent are read from the highest one down; each digit squares the result
and a set digit multiplies it by the base. Every product is reduced by a truncating remainder.

Source: `power` and `_mul_mod` in `bezout.power_mod`.
-/

namespace Aliquot

open CheckedInt

variable {α : Type} [CheckedInt α]

/-- The remainder of the product of `a` and `b` by `m`. The whole product has to be
representable. -/
def mulMod (a b m : α) : Checked α :=
  match mul? a b with
  | none => .error (.productOutOfRange (toInt a) (toInt b) (typeName α))
  | some product => rem product m

/-- Works through the digits of the exponent `n` from the one under `mask` down, with the result so
far. The masks that are reached are not negative, so the digits are used up when one is zero; that
the others end the loop too makes it end for every mask. -/
def powMod.loop (x n m mask result : α) : Checked α :=
  if _h : le mask zero then .ok result
  else do
    let square ← mulMod result result m
    let result ← if isZero (land n mask) then pure square else mulMod square x m
    loop x n m (shr mask 1) result
termination_by (toInt mask).toNat
decreasing_by
  rw [le_iff, toInt_zero] at _h
  rw [toInt_shr 1 (by omega), show twoPow 1 = 2 from rfl]
  omega

namespace powMod

variable {x n m mask result : α}

/-- Without a digit left the result is ready. -/
theorem loop_of_le (h : le mask zero = true) : loop x n m mask result = .ok result := by
  rw [loop, dif_pos h]

/-- A digit squares the result, and a set digit multiplies it by the base. -/
theorem loop_of_not_le (h : ¬le mask zero = true) :
    loop x n m mask result =
      mulMod result result m >>= fun square ↦
        (if isZero (land n mask) then .ok square else mulMod square x m) >>=
          loop x n m (shr mask 1) := by
  rw [loop, dif_neg h]
  cases isZero (land n mask) <;> rfl

end powMod

/-- The remainder of the `n`-th power of `x` by `m`. The power zero is one for every `m`. -/
def powMod (x n m : α) : Checked α :=
  if isNeg n then .error (.negativeExponent (toInt n))
  else if isZero n then .ok one
  else powMod.loop x n m (BitScan.topBit n) one

end Aliquot
