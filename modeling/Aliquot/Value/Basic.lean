import Aliquot.Decimal.Shortest
import Aliquot.Fault
import Aliquot.Number.Arithmetic
import Aliquot.Number.Order
import Aliquot.SignMagnitude.Text

/-!
# Operands of any kind

A `Value` is a number to compute with or something else that may turn up in its place: a
floating-point number, a text or nothing. `Kind` names the types that values have.

Source: the operands that the functions of `bezout` are called with.
-/

namespace Aliquot

/-- The types of operands. -/
inductive Kind where
  | number (rep : Rep)
  /-- Signed magnitudes without a choice of the magnitude. -/
  | anyMagnitude
  | float
  | text
  | null
  deriving DecidableEq, Repr

namespace Kind

/-- The name of the type. -/
def name : Kind → String
  | number r => r.typeName
  | anyMagnitude => "SignMagnitude"
  | float => "float"
  | text => "str"
  | null => "NoneType"

/-- The name of the type with the place where it is defined. -/
def qualifiedName : Kind → String
  | number .unbounded => "int"
  | number (.fixed f) => s!"bezout.numeric.{f.typeName}"
  | number (.signMagnitude w) => s!"abc.{SignMagnitude.typeName w}"
  | anyMagnitude => "bezout.sign_magnitude.SignMagnitude"
  | k => k.name

/-- The text that shows the type itself. -/
def describe (k : Kind) : String := s!"<class '{k.qualifiedName}'>"

end Kind

/-- An operand. -/
inductive Value where
  | number (x : Number)
  | float (x : Float)
  | text (s : String)
  | null
  deriving DecidableEq

namespace Value

/-- The unbounded integer `k`. -/
def int (k : Int) : Value := .number (.unbounded k)

/-- The type of a value. -/
def kind : Value → Kind
  | number x => .number x.rep
  | float _ => .float
  | text _ => .text
  | null => .null

/-- The name of the type of a value. -/
def typeName (v : Value) : String := v.kind.name

/-- The text of a value. -/
def toText : Value → Answer String
  | number ⟨.signMagnitude _, x⟩ => .ok x.toText
  | number x => writeInteger x.toInt
  | float x => .ok (Decimal.text x)
  | text s => .ok s
  | null => .ok "None"

/-- The text that shows a value with its type: numbers of bounded types carry the name of the type,
texts are quoted. -/
def describe : Value → Answer String
  | number x =>
    match x.rep with
    | .unbounded => writeInteger x.toInt
    | r => .ok s!"{r.typeName}({x.toInt})"
  | text s => .ok (Text.quote s)
  | v => v.toText

/-- A value counts as true unless it is zero, empty or nothing. -/
def truth : Value → Bool
  | number x => x.toInt != 0
  | float x => x != 0.0
  | text s => !s.isEmpty
  | null => false

end Value

end Aliquot
