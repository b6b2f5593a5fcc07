import Aliquot.Representation

/-!
# Numbers of any representation

A `Number` is a value together with the representation it is computed in. Conversion between
representations keeps the integer and fails where the target, or a step on the way, cannot hold it.

Source: `from_int` of `FixedInt` in `bezout.numeric` and of `SignMagnitude` in
`bezout.sign_magnitude`.
-/

namespace Aliquot

/-- A value and its representation. -/
structure Number where
  rep : Rep
  val : rep.Carrier
  deriving DecidableEq

namespace Number

/-- The integer that a number stands for. -/
def toInt (x : Number) : Int := CheckedInt.toInt x.val

/-- The number for `k` in the representation `r`. -/
def ofInt (r : Rep) (k : Int) : Checked Number := Number.mk r <$> CheckedInt.ofInt k

/-- The unbounded number for `k`. -/
def unbounded (k : Int) : Number := ⟨.unbounded, k⟩

/-- The name of the type of a number. -/
def typeName (x : Number) : String := x.rep.typeName

/-- The absolute value, in the representation of the number. -/
def abs (x : Number) : Checked Number := Number.mk x.rep <$> CheckedInt.abs x.val

/-- The negated number, in its representation. -/
def neg (x : Number) : Checked Number := Number.mk x.rep <$> CheckedInt.neg x.val

/-- The number of bits in which a number is held. -/
def width (x : Number) : Nat := CheckedInt.width x.val

/-- The number in the representation `r`. A signed magnitude is made from the absolute value, which
is taken in the representation that the number comes from. -/
def convert (r : Rep) (x : Number) : Checked Number :=
  match r with
  | .signMagnitude w => do
    let magnitude ← x.abs
    let y ← SignMagnitude.ofMagnitude w magnitude.toInt (decide (x.toInt < 0))
    return ⟨.signMagnitude w, y⟩
  | r => ofInt r x.toInt

/-- The value of a number in the representation `r`: its own value when it already is of that
representation, the converted one otherwise. -/
def into (r : Rep) (x : Number) : Checked r.Carrier :=
  if h : x.rep = r then .ok (h ▸ x.val) else CheckedInt.ofInt x.toInt

/-- A number of the representation `r` goes into it unchanged. -/
@[simp] theorem into_self (x : Number) : x.into x.rep = .ok x.val := by
  simp [into]

/-- A number is put together from its own value. -/
theorem ofInt_toInt (x : Number) : ofInt x.rep x.toInt = .ok x := by
  simp [ofInt, toInt, CheckedInt.ofInt_toInt, Functor.map, Except.map]

end Number

end Aliquot
