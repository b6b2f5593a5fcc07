import Aliquot.Powers
import Aliquot.Text.Numeral

/-!
# Reading floating-point numbers

A decimal numeral with an optional fraction and exponent denotes the floating-point number nearest
to it; infinities and what is no number have words of their own. Blanks may surround it and single
underscores stand between its digits.

The runtime reads such texts so.
-/

namespace Aliquot.Decimal

/-- The digits at the front of a text, as a number and how many there are, and the rest. -/
def splitDigits (cs : List Char) : Nat × Nat × List Char :=
  let digits := cs.takeWhile Char.isDigit
  (digits.foldl (fun acc c ↦ acc * 10 + (c.toNat - '0'.toNat)) 0, digits.length,
    cs.dropWhile Char.isDigit)

/-- The exponent at the end of a numeral. -/
def exponent? : List Char → Option Int
  | [] => some 0
  | c :: cs =>
    if c = 'e' ∨ c = 'E' then
      let (negative, cs) := Text.splitSign cs
      match splitDigits cs with
      | (_, 0, _) => none
      | (k, _, []) => some (if negative then -k else k)
      | _ => none
    else none

/-- The number `significand * 10 ^ exponent`. -/
def ofDecimal (significand : Nat) (exponent : Int) : Float :=
  Float.ofScientific significand (exponent < 0) exponent.natAbs

/-- The words for numbers without digits, in lower case. -/
def ofWord? (word : String) : Option Float :=
  match word with
  | "inf" | "infinity" => some (1.0 / 0.0)
  | "nan" => some (0.0 / 0.0)
  | _ => none

/-- The number that a numeral without sign denotes. -/
def readUnsigned? (cs : List Char) : Option Float :=
  match ofWord? (String.ofList (cs.map Char.toLower)) with
  | some x => some x
  | none =>
    let (whole, wholeLength, cs) := splitDigits cs
    let (fraction, fractionLength, cs) := match cs with
      | '.' :: cs => splitDigits cs
      | cs => (0, 0, cs)
    if wholeLength + fractionLength = 0 then none
    else (exponent? cs).map fun e ↦
      ofDecimal (whole * tenPow fractionLength + fraction) (e - fractionLength)

/-- The text without its underscores, each of which has to stand between two digits; the character
before the text is `before`. -/
def joinDigits? (before : Char) : List Char → Option (List Char)
  | [] => if before = '_' then none else some []
  | c :: cs =>
    if c = '_' then if before.isDigit then joinDigits? c cs else none
    else if before = '_' && !c.isDigit then none
    else (joinDigits? c cs).map (c :: ·)

/-- The number that a text denotes. -/
def read? (s : String) : Option Float := do
  let cs ← joinDigits? ' ' (Text.trimBlanks (s.toList.map Text.foldDigit))
  let (negative, cs) := Text.splitSign cs
  let x ← readUnsigned? cs
  return if negative then -x else x

end Aliquot.Decimal
