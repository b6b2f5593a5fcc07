import Aliquot.Failure
import Aliquot.Text.DigitLimit

/-!
# Faults of operations on arbitrary operands

An operation on operands of any kind can fail as checked arithmetic does, or because an operand is
of the wrong kind, has the wrong value, is too large for the operation or lacks the member that was
asked for. `Fault.message` gives the text, `Fault.kind` the class.

Source: the other errors of `bezout.numeric` and `bezout.sign_magnitude`, and those of the runtime.
-/

namespace Aliquot

/-- The classes of faults. -/
inductive FaultKind where
  /-- A failure of checked arithmetic that belongs to a category. -/
  | failure (category : Category)
  | divisionByZero
  /-- An operand is of a kind that the operation does not take. -/
  | type
  /-- An operand is of the right kind and has no acceptable value. -/
  | value
  /-- An operand exceeds what the operation can handle. -/
  | range
  /-- An object lacks a member. -/
  | member
  /-- A result is larger than what can be held. -/
  | memory
  deriving DecidableEq, Repr

/-- The causes for which an operation on arbitrary operands stops. -/
inductive Fault where
  | failure (cause : Failure)
  /-- Neither operand makes sense of the operator. -/
  | noOperator (symbol left right : String)
  /-- The operands have no order. -/
  | noOrder (symbol left right : String)
  /-- The operand has no negation. -/
  | noNegation (operand : String)
  /-- The operand has no absolute value. -/
  | noAbs (operand : String)
  /-- An integer is needed and the operand is not one. -/
  | notAnIndex (operand : String)
  /-- The operand cannot be converted to an integer. -/
  | notConvertible (operand : String)
  /-- The operand cannot be converted to a floating-point number. -/
  | notConvertibleToFloat (operand : String)
  /-- The operand is no number to compute with. -/
  | notNumeric (operand : String)
  /-- Numbers of two types were given to one computation. -/
  | mixed (first second : String)
  /-- A number of an unsigned type was given to a computation that negates. -/
  | unsignedNumber (operand : String)
  | cannotDivide (dividend divisor : String)
  | cannotMultiply (left right : String)
  | cannotSubtract (subtrahend minuend : String)
  /-- Text is followed by something else than text. -/
  | cannotAppend (operand : String)
  /-- Text is repeated by something else than a count. -/
  | cannotRepeat (count : String)
  /-- A list is followed by something else than a list. -/
  | cannotAppendToList (operand : String)
  /-- The operand cannot be looked up. -/
  | unhashable (operand : String)
  /-- A signed magnitude was made without a type for the magnitude. -/
  | noMagnitudeType
  /-- The description is not that of an unsigned fixed-width type. -/
  | notAMagnitudeType (description : String)
  /-- A sign was given to a fixed-width type, which takes none. -/
  | unexpectedSign
  /-- A sign was given to the type, which takes other named arguments. -/
  | invalidKeyword (type : String)
  /-- A sign was given to the type, which takes no named arguments. -/
  | noKeywords (type : String)
  /-- An argument was given to the type, which takes none. -/
  | noArguments (type : String)
  | emptyNumeral
  /-- The text has nothing, or a second sign, after its sign; it is given in quotes. -/
  | badSign (base : Int) (quoted : String)
  /-- The text is not a numeral in the base; it is given in quotes. -/
  | badNumeral (base : Int) (quoted : String)
  /-- The text is not a floating-point numeral; it is given in quotes. -/
  | badFloat (quoted : String)
  | badBase
  /-- The numeral has `digits` digits, more than are read. -/
  | tooLongToRead (limit digits : Nat)
  /-- The integer has more digits than are written. -/
  | tooLongToWrite (limit : Nat)
  | negativeShift
  | nanToInteger
  | infinityToInteger
  /-- The operand is too large to count with. -/
  | countTooLarge (operand : String)
  /-- The shifted integer has more digits than can be counted. -/
  | tooManyDigits
  /-- The repeated text has more characters than can be counted. -/
  | repeatedTextTooLong
  /-- The result has more digits or characters than can be held. -/
  | outOfMemory
  | tooLargeForFloat
  | noMember (operand member : String)
  | noTypeMember (type member : String)
  deriving DecidableEq, Repr

namespace Fault

/-- The class of a fault. -/
def kind : Fault → FaultKind
  | failure cause =>
    match cause.category? with
    | some category => .failure category
    | none => .divisionByZero
  | noOperator .. | noOrder .. | noNegation _ | noAbs _ | notAnIndex _ | notConvertible _
  | notConvertibleToFloat _ | notNumeric _ | mixed .. | unsignedNumber _ | cannotDivide ..
  | cannotMultiply .. | cannotSubtract .. | cannotAppend _ | cannotRepeat _ | cannotAppendToList _
  | unhashable _ | noMagnitudeType | notAMagnitudeType _ | unexpectedSign | invalidKeyword _
  | noKeywords _ | noArguments _ => .type
  | emptyNumeral | badSign .. | badNumeral .. | badFloat _ | badBase | tooLongToRead ..
  | tooLongToWrite _ | negativeShift | nanToInteger => .value
  | infinityToInteger | countTooLarge _ | tooManyDigits | repeatedTextTooLong
  | tooLargeForFloat => .range
  | outOfMemory => .memory
  | noMember .. | noTypeMember .. => .member

/-- The text of a fault. -/
def message : Fault → String
  | failure cause => cause.message
  | noOperator symbol left right =>
    s!"unsupported operand type(s) for {symbol}: '{left}' and '{right}'"
  | noOrder symbol left right =>
    s!"'{symbol}' not supported between instances of '{left}' and '{right}'"
  | noNegation operand => s!"bad operand type for unary -: '{operand}'"
  | noAbs operand => s!"bad operand type for abs(): '{operand}'"
  | notAnIndex operand => s!"'{operand}' object cannot be interpreted as an integer"
  | notConvertible operand =>
    s!"int() argument must be a string, a bytes-like object or a real number, not '{operand}'"
  | notConvertibleToFloat operand =>
    s!"float() argument must be a string or a real number, not '{operand}'"
  | notNumeric operand => s!"unsupported numeric type: {operand}"
  | mixed first second => s!"cannot mix {first} and {second}"
  | unsignedNumber operand => s!"{operand} is unsigned; use it as a SignMagnitude magnitude"
  | cannotDivide dividend divisor => s!"cannot divide {dividend} by {divisor}"
  | cannotMultiply left right => s!"cannot multiply {left} by {right}"
  | cannotSubtract subtrahend minuend => s!"cannot subtract {subtrahend} from {minuend}"
  | cannotAppend operand => s!"can only concatenate str (not \"{operand}\") to str"
  | cannotRepeat count => s!"can't multiply sequence by non-int of type '{count}'"
  | cannotAppendToList operand => s!"can only concatenate list (not \"{operand}\") to list"
  | unhashable operand => s!"unhashable type: '{operand}'"
  | noMagnitudeType => "use SignMagnitude.over(<unsigned type>) to pick a magnitude type"
  | notAMagnitudeType description =>
    s!"magnitude type must be an unsigned FixedInt, got {description}"
  | unexpectedSign => "FixedInt.__init__() got an unexpected keyword argument 'negative'"
  | invalidKeyword type => s!"'negative' is an invalid keyword argument for {type}()"
  | noKeywords type => s!"{type}() takes no keyword arguments"
  | noArguments type => s!"{type} takes no arguments"
  | emptyNumeral => "cannot parse an empty string"
  | badSign base quoted => s!"invalid literal for base {base}: {quoted}"
  | badNumeral base quoted => s!"invalid literal for int() with base {base}: {quoted}"
  | badFloat quoted => s!"could not convert string to float: {quoted}"
  | badBase => "int() base must be >= 2 and <= 36, or 0"
  | tooLongToRead limit digits =>
    s!"Exceeds the limit ({limit} digits) for integer string conversion: value has {digits} " ++
      "digits; use sys.set_int_max_str_digits() to increase the limit"
  | tooLongToWrite limit =>
    s!"Exceeds the limit ({limit} digits) for integer string conversion; " ++
      "use sys.set_int_max_str_digits() to increase the limit"
  | negativeShift => "negative shift count"
  | nanToInteger => "cannot convert float NaN to integer"
  | infinityToInteger => "cannot convert float infinity to integer"
  | countTooLarge operand => s!"cannot fit '{operand}' into an index-sized integer"
  | tooManyDigits => "too many digits in integer"
  | repeatedTextTooLong => "repeated string is too long"
  | outOfMemory => ""
  | tooLargeForFloat => "int too large to convert to float"
  | noMember operand member => s!"'{operand}' object has no attribute '{member}'"
  | noTypeMember type member => s!"type object '{type}' has no attribute '{member}'"

/-- The fault that is reported. A failure whose text would mention an integer that is too long to
write is reported as the fault to write it. -/
def reported : Fault → Fault
  | failure cause =>
    if cause.integers.any Text.isLong then tooLongToWrite Text.digitLimit else failure cause
  | e => e

end Fault

/-- The result of an operation on arbitrary operands. -/
abbrev Answer (α : Type) := Except Fault α

/-- The decimal numeral of an integer. -/
def writeInteger (k : Int) : Answer String :=
  if Text.isLong k then .error (.tooLongToWrite Text.digitLimit) else .ok (toString k)

/-- Checked arithmetic among operations on arbitrary operands. -/
instance : MonadLift (Except Failure) (Except Fault) where
  monadLift x := x.mapError .failure

end Aliquot
