import Aliquot.Binary64

/-!
# Shortest decimal texts of floating-point numbers

A number is written with the fewest digits that no other number is nearer to; of those the decimal
nearest to the number is taken. Numbers from `10 ^ -4` to `10 ^ 16` are written positionally, the
others with an exponent of at least two digits.

The runtime writes them so.
-/

namespace Aliquot.Decimal

/-- The positive reals that are nearest to one number, as multiples of a common unit. -/
structure Interval where
  lower : Nat
  value : Nat
  upper : Nat
  /-- The ends belong to the interval. -/
  closed : Bool

/-- A real is in the interval; it is given as the fraction `num / den` of the unit. -/
def Interval.contains (i : Interval) (num den : Nat) : Bool :=
  if i.closed then i.lower * den ≤ num && num ≤ i.upper * den
  else i.lower * den < num && num < i.upper * den

/-- The interval of a number in units of a quarter of its last place. Below a power of two the
numbers are twice as dense as above it. -/
def interval (significand : Nat) (exponent : Int) : Interval where
  lower := if significand = twoPow 52 ∧ exponent > -1074 then 4 * significand - 1
    else 4 * significand - 2
  value := 4 * significand
  upper := 4 * significand + 2
  closed := significand % 2 == 0

/-- Digits `d` and a position `p` for the decimal `d * 10 ^ p`. -/
structure Digits where
  digits : Nat
  position : Int
  deriving DecidableEq, Repr

/-- The decimal on the grid of step `10 ^ position` that is in the interval and nearest to the
value; nothing when neither neighbour of the value is in the interval. The unit of the interval is
`unitNum / unitDen`. -/
def onGrid? (i : Interval) (unitNum unitDen : Nat) (position : Int) : Option Digits :=
  let num := i.value * unitNum * tenPow (-position).toNat
  let den := unitDen * tenPow position.toNat
  let below := num / den
  let isIn (d : Nat) := i.contains (d * den) (unitNum * tenPow (-position).toNat)
  let twice := 2 * (num % den)
  let nearest := if twice < den ∨ (twice = den ∧ below % 2 = 0) then below else below + 1
  let other := if nearest = below then below + 1 else below
  if isIn nearest then some ⟨nearest, position⟩
  else if isIn other then some ⟨other, position⟩
  else none

/-- The exponent of the greatest power of ten that is not above a positive fraction. The lengths of
the numerals tell it up to one. -/
def magnitude (num den : Nat) : Int :=
  let guess : Int := (Nat.toDigits 10 num).length - (Nat.toDigits 10 den).length
  if den * tenPow guess.toNat ≤ num * tenPow (-guess).toNat then guess else guess - 1

/-- The shortest decimal of a positive number. -/
def shortest (significand : Nat) (exponent : Int) : Digits :=
  let i := interval significand exponent
  let unitNum := twoPow (exponent - 2).toNat
  let unitDen := twoPow (2 - exponent).toNat
  let top := magnitude (i.value * unitNum) unitDen
  let grids := (List.range 17).filterMap fun n : Nat ↦ onGrid? i unitNum unitDen (top - n)
  grids.head?.getD ⟨significand, exponent⟩

/-- The digits of a decimal without zeros at the end, and the power of ten of the first one. -/
def Digits.normalize (d : Digits) : List Char × Int :=
  let cs := Nat.toDigits 10 d.digits
  let significant := (cs.reverse.dropWhile (· == '0')).reverse
  (significant, d.position + cs.length - 1)

/-- The digits with a point before the one of weight `10 ^ -1`, and at least one digit on each side
of it. -/
def positional (digits : List Char) (exponent : Int) : List Char :=
  if exponent < 0 then
    ['0', '.'] ++ List.replicate (-exponent - 1).toNat '0' ++ digits
  else
    let whole := exponent.toNat + 1
    let fraction := digits.drop whole
    digits.take whole ++ List.replicate (whole - digits.length) '0' ++ ['.'] ++
      (if fraction.isEmpty then ['0'] else fraction)

/-- One digit, a point and further digits if there are any, and the power of ten. -/
def scientific (digits : List Char) (exponent : Int) : List Char :=
  let point := if digits.length > 1 then ['.'] else []
  let power := Nat.toDigits 10 exponent.natAbs
  digits.take 1 ++ point ++ digits.drop 1 ++ ['e', if exponent < 0 then '-' else '+'] ++
    List.replicate (2 - power.length) '0' ++ power

/-- The text of a floating-point number. -/
def text (x : Float) : String :=
  match Binary64.finite? x with
  | none => if x.isNaN then "nan" else if Binary64.isNegative x then "-inf" else "inf"
  | some x =>
    let sign := if x.negative then ['-'] else []
    if x.significand = 0 then String.ofList (sign ++ ['0', '.', '0'])
    else
      let (digits, exponent) := (shortest x.significand x.exponent).normalize
      let body := if -4 ≤ exponent ∧ exponent < 16 then positional digits exponent
        else scientific digits exponent
      String.ofList (sign ++ body)

end Aliquot.Decimal
