import Aliquot.Powers

/-!
# Binary floating-point numbers

A finite number is a sign, a natural significand and a power of two, so it can be compared, rounded
toward zero and divided exactly. Integers turn into the nearest number unless they are too large.

The runtime treats floating-point operands so.
-/

namespace Aliquot.Binary64

/-- A finite number: `significand * 2 ^ exponent` with a sign. -/
structure Finite where
  negative : Bool
  significand : Nat
  exponent : Int
  deriving DecidableEq, Repr

/-- The finite number that `x` is; nothing for the infinities and for what is no number. -/
def finite? (x : Float) : Option Finite :=
  let bits := x.toBits.toNat
  let negative := bits.testBit 63
  let biased : Nat := bits / twoPow 52 % twoPow 11
  let fraction := bits % twoPow 52
  if biased = 2047 then none
  else if biased = 0 then some ⟨negative, fraction, -1074⟩
  else some ⟨negative, twoPow 52 + fraction, (biased : Int) - 1075⟩

/-- The number has a minus sign. -/
def isNegative (x : Float) : Bool := x.toBits.toNat.testBit 63

/-- The significand with its sign. -/
def Finite.signed (x : Finite) : Int := if x.negative then -x.significand else x.significand

/-- The order of a finite number and an integer. -/
def Finite.compareInt (x : Finite) (k : Int) : Ordering :=
  compare (x.signed * twoPow x.exponent.toNat) (k * twoPow (-x.exponent).toNat)

/-- The order of a number and an integer; nothing for what is no number. -/
def compareInt? (x : Float) (k : Int) : Option Ordering :=
  match finite? x with
  | some x => some (x.compareInt k)
  | none => if x.isNaN then none else some (if isNegative x then .lt else .gt)

/-- The integer that a finite number is rounded to, toward zero. -/
def Finite.truncate (x : Finite) : Int :=
  (x.signed * twoPow x.exponent.toNat).tdiv (twoPow (-x.exponent).toNat)

/-- The number nearest to an integer; nothing when that is beyond every finite number. -/
def ofInt? (k : Int) : Option Float :=
  let x := Float.ofScientific k.natAbs false 0
  if x.isInf then none else some (if k < 0 then -x else x)

/-- The remainder of two positive numbers, without rounding. -/
def remainder (x y : Float) : Float :=
  match finite? x, finite? y with
  | some a, some b =>
    let exponent := min a.exponent b.exponent
    let dividend := a.significand * twoPow (a.exponent - exponent).toNat
    let divisor := b.significand * twoPow (b.exponent - exponent).toNat
    (Float.ofNat (dividend % divisor)).scaleB exponent
  | some _, none => if y.isNaN then y else x
  | none, _ => 0.0 / 0.0

/-- The quotient of two positive numbers, rounded down. -/
def floorDiv (x y : Float) : Float :=
  let quotient := (x - remainder x y) / y
  let floor := quotient.floor
  if quotient - floor > 0.5 then floor + 1.0 else floor

end Aliquot.Binary64
