import Aliquot.Fixed.Basic

/-!
# Signed integers as a sign and a magnitude

A `SignMagnitude w` is a sign flag beside an unsigned magnitude of width `w`. Zero is never
negative, so each integer has one representation. The arithmetic works on flags and magnitudes:
only a sum of magnitudes and a product of magnitudes can leave the width.

Source: `SignMagnitude` in `bezout.sign_magnitude`.
-/

namespace Aliquot

/-- A sign flag and a magnitude; the flag is clear on zero. -/
@[ext] structure SignMagnitude (w : Width) where
  /-- The sign flag. -/
  negative : Bool
  /-- The distance from zero. -/
  magnitude : Fixed (.unsigned w)
  negative_eq_false : magnitude.val = 0 → negative = false
  deriving DecidableEq, Repr

namespace SignMagnitude

variable {w : Width}

/-- A magnitude with a sign, which zero drops. -/
def ofParts (magnitude : Fixed (.unsigned w)) (negative : Bool) : SignMagnitude w where
  negative := negative && magnitude.val != 0
  magnitude
  negative_eq_false h := by simp [h]

/-- The integer that the flag and the magnitude stand for. -/
def toInt (x : SignMagnitude w) : Int :=
  if x.negative then -x.magnitude.val else x.magnitude.val

/-- The value with the given magnitude and sign; a failure when the magnitude is not
representable. -/
def ofMagnitude (w : Width) (magnitude : Int) (negative : Bool) : Checked (SignMagnitude w) := do
  return ofParts (← Fixed.ofInt (.unsigned w) magnitude) negative

/-- The value for `k`; a failure when the magnitude of `k` is not representable. -/
def ofInt (w : Width) (k : Int) : Checked (SignMagnitude w) :=
  ofMagnitude w k.natAbs (decide (k < 0))

/-- Zero. -/
def zero (w : Width) : SignMagnitude w := ofParts (.zero _) false

/-- One. -/
def one (w : Width) : SignMagnitude w := ofParts (.one _) false

/-- The sum of a value and a magnitude with a sign of its own: magnitudes of one sign add up, of
two magnitudes with different signs the smaller is taken from the greater, whose sign wins. -/
def addSigned (x : SignMagnitude w) (magnitude : Fixed (.unsigned w)) (negative : Bool) :
    Checked (SignMagnitude w) := do
  if x.negative = negative then
    return ofParts (← x.magnitude.add magnitude) x.negative
  else if magnitude.val ≤ x.magnitude.val then
    return ofParts (← x.magnitude.sub magnitude) x.negative
  else
    return ofParts (← magnitude.sub x.magnitude) negative

/-- The sum. -/
def add (x y : SignMagnitude w) : Checked (SignMagnitude w) := x.addSigned y.magnitude y.negative

/-- The difference. -/
def sub (x y : SignMagnitude w) : Checked (SignMagnitude w) := x.addSigned y.magnitude !y.negative

/-- The distance between two values. -/
def absSub (x y : SignMagnitude w) : Checked (SignMagnitude w) := do
  if x.negative ≠ y.negative then
    return ofParts (← x.magnitude.add y.magnitude) false
  else if y.magnitude.val ≤ x.magnitude.val then
    return ofParts (← x.magnitude.sub y.magnitude) false
  else
    return ofParts (← y.magnitude.sub x.magnitude) false

/-- The product. -/
def mul (x y : SignMagnitude w) : Checked (SignMagnitude w) := do
  return ofParts (← x.magnitude.mul y.magnitude) (x.negative != y.negative)

/-- The product, or nothing when it is not representable. -/
def mul? (x y : SignMagnitude w) : Option (SignMagnitude w) :=
  (x.magnitude.mul? y.magnitude).map (ofParts · (x.negative != y.negative))

/-- The negated value. -/
def neg (x : SignMagnitude w) : SignMagnitude w := ofParts x.magnitude !x.negative

/-- The absolute value. -/
def abs (x : SignMagnitude w) : SignMagnitude w := ofParts x.magnitude false

/-- One, with the sign of the value. -/
def signum (x : SignMagnitude w) : SignMagnitude w := ofParts (.one _) x.negative

/-- The quotient, rounded toward zero. -/
def quo (x y : SignMagnitude w) : Checked (SignMagnitude w) := do
  return ofParts (← x.magnitude.quo y.magnitude) (x.negative != y.negative)

/-- The remainder of the quotient rounded toward zero; it has the sign of the dividend. -/
def rem (x y : SignMagnitude w) : Checked (SignMagnitude w) := do
  return ofParts (← x.magnitude.rem y.magnitude) x.negative

/-- The conjunction of two magnitudes, negative when both values are. -/
def land (x y : SignMagnitude w) : SignMagnitude w :=
  ofParts (x.magnitude.land y.magnitude) (x.negative && y.negative)

/-- The magnitude moved `k` places up; what leaves the width is dropped. -/
def shl (x : SignMagnitude w) (k : Nat) : SignMagnitude w :=
  ofParts (x.magnitude.shl k) x.negative

/-- The magnitude moved `k` places down, without its sign. -/
def shr (x : SignMagnitude w) (k : Nat) : SignMagnitude w := ofParts (x.magnitude.shr k) false

/-- The values have the same sign and the same magnitude. -/
def eq (x y : SignMagnitude w) : Bool := x.negative == y.negative && x.magnitude.eq y.magnitude

/-- A negative value comes before the others; among negative values the greater magnitude comes
first. -/
def lt (x y : SignMagnitude w) : Bool :=
  if x.negative ≠ y.negative then x.negative
  else if x.negative then y.magnitude.lt x.magnitude
  else x.magnitude.lt y.magnitude

/-- The value is below zero. -/
def isNegative (x : SignMagnitude w) : Bool := x.negative

/-- The value is above zero. -/
def isPositive (x : SignMagnitude w) : Bool := !x.negative && x.magnitude.val != 0

/-- The name of the type with magnitudes of width `w`. -/
def typeName (w : Width) : String := s!"SignMagnitude[{(Format.unsigned w).typeName}]"

end SignMagnitude

end Aliquot
