import Aliquot.Congruence
import Aliquot.Decimal.Reading
import Aliquot.SignMagnitude.Text
import Aliquot.Value.Arithmetic

/-!
# Conversion of operands to numbers

Numbers of every type serve where an integer is needed. Floating-point numbers and texts are
converted only on request: the former are rounded toward zero, the latter read as numerals.

Source: the constructors, `from_int` and `over` in `bezout.numeric` and `bezout.sign_magnitude`, and
the conversions of the runtime.
-/

namespace Aliquot.Value

/-- The integer that a value can be turned into. -/
def toInteger : Value → Answer Int
  | number x => .ok x.toInt
  | float x =>
    match Binary64.finite? x with
    | some x => .ok x.truncate
    | none => .error (if x.isNaN then .nanToInteger else .infinityToInteger)
  | text s => Text.readInteger (some Text.digitLimit) s 10
  | null => .error (.notConvertible null.typeName)

/-- A value as a 32-bit count. -/
def toCount (v : Value) : Answer Int := do
  let k ← v.toInteger
  Congruence.toCount k

/-- The number of the type `k` for an integer `v`. -/
def convert (k : Kind) (v : Value) : Answer Value :=
  match k, v with
  | .number .unbounded, _ => .error (.noTypeMember k.name "from_int")
  | .number r, number x => do return number (← x.convert r)
  | .number (.fixed _), v => .error (.notAnIndex v.typeName)
  | .number (.signMagnitude _), v => do
    let magnitude ← v.abs
    .error (.notAnIndex magnitude.typeName)
  | .anyMagnitude, v => do
    let _ ← v.abs
    .error .noMagnitudeType
  | k, _ => .error (.noTypeMember k.name "from_int")

/-- The floating-point number that a value can be turned into. -/
def toFloat : Value → Answer Float
  | number x =>
    match Binary64.ofInt? x.toInt with
    | some x => .ok x
    | none => .error .tooLargeForFloat
  | float x => .ok x
  | text s =>
    match Decimal.read? s with
    | some x => .ok x
    | none => .error (.badFloat (Text.quote s))
  | null => .error (.notConvertibleToFloat null.typeName)

/-- The value of the type `k` made from `v?`, or the default one. Only signed magnitudes take a sign
beside the integer. -/
def construct (k : Kind) (v? : Option Value) (negative? : Option Bool) : Answer Value :=
  match k with
  | .number .unbounded => do
    if negative?.isSome then throw (.invalidKeyword k.name)
    return int (← (v?.getD (int 0)).toInteger)
  | .number (.fixed f) => do
    if negative?.isSome then throw .unexpectedSign
    return number (← Number.ofInt (.fixed f) (← (v?.getD (int 0)).index))
  | .number (.signMagnitude w) => do
    let magnitude ← (v?.getD (int 0)).index
    return number ⟨.signMagnitude w, ← SignMagnitude.ofMagnitude w magnitude (negative?.getD false)⟩
  | .anyMagnitude => .error .noMagnitudeType
  | .float => do
    if negative?.isSome then throw (.noKeywords k.name)
    return float (← (v?.getD (int 0)).toFloat)
  | .text => do
    if negative?.isSome then throw (.invalidKeyword k.name)
    return text (← (v?.getD (text "")).toText)
  | .null => if v?.isSome ∨ negative?.isSome then .error (.noArguments k.name) else .ok null

/-- The signed magnitude of the type `k` that a text denotes in the base `base`. -/
def parse (k : Kind) (s : String) (base : Int) : Answer Value :=
  let limit? := some Text.digitLimit
  match k with
  | .number (.signMagnitude w) => do
    return number ⟨.signMagnitude w, ← SignMagnitude.parse w limit? s base⟩
  | .anyMagnitude => do
    let _ ← Text.readSigned limit? s base
    throw .noMagnitudeType
  | k => .error (.noTypeMember k.name "parse")

/-- The integer `k` in the type of `v` if that is a bounded one, and as it is otherwise. -/
def countLike (v k : Value) : Answer Value :=
  match v with
  | number x => if x.rep = .unbounded then .ok k else convert (.number x.rep) k
  | _ => .ok k

end Aliquot.Value

namespace Aliquot.Kind

/-- The format of a fixed-width type. -/
def format : Kind → Answer Format
  | number (.fixed f) => .ok f
  | k => .error (.noTypeMember k.name "BITS")

/-- The width of an unsigned fixed-width type, the only types that serve as magnitudes. -/
def magnitudeWidth : Kind → Answer Width
  | number (.fixed (.unsigned w)) => .ok w
  | k => .error (.notAMagnitudeType k.describe)

end Aliquot.Kind
