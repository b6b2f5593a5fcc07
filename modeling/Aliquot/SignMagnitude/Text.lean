import Aliquot.Fault
import Aliquot.SignMagnitude.Basic
import Aliquot.Text.Numeral
import Aliquot.Text.Quoted

/-!
# Texts of signed magnitudes

A signed magnitude is written as the numeral of its magnitude, with a minus sign when its flag is
set. Reading takes one minus sign off a text and reads the rest as a numeral in any base.

Source: `parse` and the texts of `SignMagnitude` in `bezout.sign_magnitude`.
-/

namespace Aliquot

namespace Text

/-- The integer of a text in the base `base`, with no more digits than `limit?` if there is a limit.
Too many digits count before anything that is wrong behind them. -/
def readInteger (limit? : Option Nat) (text : String) (base : Int) : Answer Int := do
  if !isBase base then throw .badBase
  if let some limit := limit? then
    if let some digits := excess? limit base.toNat text then throw (.tooLongToRead limit digits)
  match integer? base.toNat text with
  | some k => return k
  | none => throw (.badNumeral base (quoteUpTo 200 text))

/-- A minus sign in front, if there is one, and the rest. -/
def splitMinus : List Char → Bool × List Char
  | '-' :: cs => (true, cs)
  | cs => (false, cs)

/-- The sign and the magnitude that a text denotes. The magnitude may have a sign of its own, but
not a minus right behind the sign. -/
def readSigned (limit? : Option Nat) (text : String) (base : Int) : Answer (Bool × Int) := do
  if text.isEmpty then throw .emptyNumeral
  let (negative, digits) := splitMinus text.toList
  if digits.isEmpty || digits.head? == some '-' then throw (.badSign base (quote text))
  return (negative, ← readInteger limit? (String.ofList digits) base)

end Text

namespace SignMagnitude

/-- The value that a text denotes in the base `base`, with no more digits than `limit?` if there is
a limit. -/
def parse (w : Width) (limit? : Option Nat) (text : String) (base : Int) :
    Answer (SignMagnitude w) := do
  let (negative, magnitude) ← Text.readSigned limit? text base
  ofMagnitude w magnitude negative

/-- The text of a value. -/
def toText {w : Width} (x : SignMagnitude w) : String :=
  (if x.negative then "-" else "") ++ toString x.magnitude.val

end SignMagnitude

end Aliquot
