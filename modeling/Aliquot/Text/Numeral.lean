import Aliquot.Text.Blank
import Aliquot.Text.DecimalDigit

/-!
# Numerals

A numeral is a run of digits in a base from 2 to 36, with blanks around it, a sign in front and
single underscores between its digits. In base 16, 8 and 2 the digits may follow the prefix `0x`,
`0o` or `0b`; base 0 lets the prefix decide, is decimal without one and then takes leading zeros
only on zero itself.

The runtime reads numerals so, and `parse` in `bezout.sign_magnitude` relies on it.
-/

namespace Aliquot.Text

/-- The digit of ASCII for a decimal digit of any script; other characters stay as they are. -/
def foldDigit (c : Char) : Char :=
  match decimalDigit? c with
  | some d => Char.ofNat ('0'.toNat + d)
  | none => c

/-- The value of a digit or letter of ASCII, the letters of either case counting from ten. -/
def digitValue? (c : Char) : Option Nat :=
  if '0' ≤ c ∧ c ≤ '9' then some (c.toNat - '0'.toNat)
  else if 'a' ≤ c ∧ c ≤ 'z' then some (c.toNat - 'a'.toNat + 10)
  else if 'A' ≤ c ∧ c ≤ 'Z' then some (c.toNat - 'A'.toNat + 10)
  else none

/-- The value of a digit of the base `base`. -/
def digitIn? (base : Nat) (c : Char) : Option Nat := (digitValue? c).filter (· < base)

/-- The values of one or more digits, between any two of which an underscore may stand. -/
def digitsIn? (base : Nat) : List Char → Option (List Nat)
  | [] => none
  | [c] => (digitIn? base c).map ([·])
  | c :: '_' :: cs => do return (← digitIn? base c) :: (← digitsIn? base cs)
  | c :: cs => do return (← digitIn? base c) :: (← digitsIn? base cs)

/-- The number that digits stand for, the highest digit first. -/
def ofDigits (base : Nat) (digits : List Nat) : Nat :=
  digits.foldl (fun acc d ↦ acc * base + d) 0

/-- The base that a prefix letter announces. -/
def prefixBase? (c : Char) : Option Nat :=
  if c = 'x' ∨ c = 'X' then some 16
  else if c = 'o' ∨ c = 'O' then some 8
  else if c = 'b' ∨ c = 'B' then some 2
  else none

/-- A base prefix and what follows it and an underscore that may come next. -/
def splitPrefix? : List Char → Option (Nat × List Char)
  | '0' :: letter :: '_' :: cs => (prefixBase? letter).map (·, cs)
  | '0' :: letter :: cs => (prefixBase? letter).map (·, cs)
  | _ => none

/-- The number of a numeral without sign and blanks. -/
def unsigned? (base : Nat) (cs : List Char) : Option Nat :=
  if base = 0 then
    match splitPrefix? cs with
    | some (base, cs) => (digitsIn? base cs).map (ofDigits base)
    | none =>
      let value? := (digitsIn? 10 cs).map (ofDigits 10)
      if cs.head? = some '0' then value?.filter (· = 0) else value?
  else
    match splitPrefix? cs with
    | some (announced, rest) =>
      if announced = base then (digitsIn? base rest).map (ofDigits base)
      else (digitsIn? base cs).map (ofDigits base)
    | none => (digitsIn? base cs).map (ofDigits base)

/-- A sign, if there is one, and the rest; the sign counts as negative when it is a minus. -/
def splitSign : List Char → Bool × List Char
  | '-' :: cs => (true, cs)
  | '+' :: cs => (false, cs)
  | cs => (false, cs)

/-- A base is zero or lies between 2 and 36. -/
def isBase (base : Int) : Bool := base == 0 || (2 ≤ base && base ≤ 36)

/-- The integer that a text denotes in the base `base`, if it is a numeral. -/
def integer? (base : Nat) (text : String) : Option Int :=
  let (negative, cs) := splitSign (trimBlanks (text.toList.map foldDigit))
  (unsigned? base cs).map fun n : Nat ↦ if negative then -(n : Int) else n

/-- The digits and underscores at the front. -/
def digitRun (base : Nat) (cs : List Char) : List Char :=
  cs.takeWhile fun c ↦ c == '_' || (digitIn? base c).isSome

/-- The base in which a numeral without sign and blanks is read, unless that is a power of two. In
those bases the digits are the binary digits in groups, and reading takes no longer than the numeral
is. -/
def slowBase? (base : Nat) (cs : List Char) : Option Nat :=
  if base = 0 then if (splitPrefix? cs).isSome then none else some 10
  else if base ∈ [2, 4, 8, 16, 32] then none
  else some base

/-- The number of digits at the front of a text where it exceeds `limit`, whatever follows them. No
digits count in bases that are powers of two. -/
def excess? (limit base : Nat) (text : String) : Option Nat := do
  let (_, cs) := splitSign (trimBlanks (text.toList.map foldDigit))
  let base ← slowBase? base cs
  let digits ← digitsIn? base (digitRun base cs)
  if limit < digits.length then some digits.length else none

end Aliquot.Text
