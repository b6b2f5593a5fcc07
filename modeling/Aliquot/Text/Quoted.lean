import Aliquot.Text.Printable

/-!
# Quoted text

A text is shown between apostrophes, or between quotation marks when it holds an apostrophe and no
quotation mark. The mark, the backslash and whatever is not printable are written as escapes.

The runtime shows texts so, and the messages of `parse` in `bezout.sign_magnitude` do.
-/

namespace Aliquot.Text

/-- The mark that a text usually stands between. -/
def apostrophe : Char := '\x27'

/-- The mark for a text that holds an apostrophe. -/
def quotationMark : Char := '\x22'

/-- The character that starts an escape. -/
def backslash : Char := '\x5c'

/-- The lower-case hexadecimal numeral of `n`, filled up with zeros to `width` digits. -/
def hex (width n : Nat) : List Char :=
  let digits := Nat.toDigits 16 n
  List.replicate (width - digits.length) '0' ++ digits

/-- A character that is not printable, by its code point. -/
def escapeCodePoint (c : Char) : List Char :=
  if c.toNat < 0x100 then backslash :: 'x' :: hex 2 c.toNat
  else if c.toNat < 0x10000 then backslash :: 'u' :: hex 4 c.toNat
  else backslash :: 'U' :: hex 8 c.toNat

/-- A character as it is written between two marks. -/
def escape (mark c : Char) : List Char :=
  if c = mark ∨ c = backslash then [backslash, c]
  else if c = '\n' then [backslash, 'n']
  else if c = '\r' then [backslash, 'r']
  else if c = '\t' then [backslash, 't']
  else if isPrintable c then [c]
  else escapeCodePoint c

/-- The mark at both ends of a text. -/
def quoteMark (cs : List Char) : Char :=
  if apostrophe ∈ cs ∧ quotationMark ∉ cs then quotationMark else apostrophe

/-- The characters of a text in quotes. -/
def quoteChars (cs : List Char) : List Char :=
  let mark := quoteMark cs
  mark :: cs.flatMap (escape mark) ++ [mark]

/-- The first `limit` characters of the text in quotes. -/
def quoteUpTo (limit : Nat) (text : String) : String :=
  String.ofList ((quoteChars text.toList).take limit)

/-- The text in quotes. -/
def quote (text : String) : String := String.ofList (quoteChars text.toList)

end Aliquot.Text
