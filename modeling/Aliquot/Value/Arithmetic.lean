import Aliquot.Value.Order

/-!
# Operators on operands of any kind

Numbers are combined in the representation of one of them. Unbounded integers also combine with
floating-point numbers, and texts are joined and repeated. Every other combination is a fault that
names the operator and the types of its operands.

Source: the operators of `FixedInt` and `SignMagnitude`, the generic operations of `bezout.numeric`
on operands of any type, and the operators of the runtime.
-/

namespace Aliquot.Value

/-- The floating-point number that a value is or, for an unbounded integer, is rounded to. -/
def toFloat? : Value → Option (Answer Float)
  | float x => some (.ok x)
  | number ⟨.unbounded, k⟩ =>
    some (match Binary64.ofInt? k with
      | some x => .ok x
      | none => .error .tooLargeForFloat)
  | _ => none

/-- An operator on floating-point numbers, which unbounded integers are turned into. -/
def floating (symbol : String) (op : Float → Float → Float) (x y : Value) : Answer Value :=
  match x.toFloat?, y.toFloat? with
  | some x, some y => do
    let x ← x
    return float (op x (← y))
  | _, _ => .error (.noOperator symbol x.typeName y.typeName)

/-- An operator on numbers, in the representation of the one that accepts the other. -/
def arithmetic (symbol : String) (op : Number.BinaryOp) (x y : Number) : Answer Value :=
  match Number.operate? op x y with
  | some result => do return number (← result)
  | none => .error (.noOperator symbol x.typeName y.typeName)

/-- The integers that count repetitions. -/
def isCount (k : Int) : Bool := decide (Format.word.Represents k)

/-- As many characters or binary digits are not held. What a machine holds depends on its memory, so
the shifts take the bound as a parameter. -/
def memoryLimit : Nat := twoPow 36

/-- A text repeated as often as a number says; not at all for a negative one. -/
def repeatText (s : String) : Value → Answer Value
  | number x => do
    let count := x.toInt.toNat
    if !isCount x.toInt then throw (.countTooLarge x.typeName)
    if s.isEmpty then return text s
    if !isCount (s.length * count : Nat) then throw .repeatedTextTooLong
    if memoryLimit ≤ s.length * count then throw .outOfMemory
    return text (String.join (List.replicate count s))
  | count => .error (.cannotRepeat count.typeName)

/-- The sum of two numbers, or two texts joined. -/
def add : Value → Value → Answer Value
  | number x, number y => arithmetic "+" .add x y
  | text s, text t => .ok (text (s ++ t))
  | text _, y => .error (.cannotAppend y.typeName)
  | x, y => floating "+" (· + ·) x y

/-- The difference of two numbers. -/
def sub : Value → Value → Answer Value
  | number x, number y => arithmetic "-" .sub x y
  | x, y => floating "-" (· - ·) x y

/-- The product of two numbers, or a text repeated. -/
def mul : Value → Value → Answer Value
  | number x, number y => arithmetic "*" .mul x y
  | text s, count | count, text s => repeatText s count
  | x, y => floating "*" (· * ·) x y

/-- The conjunction of the bit patterns of two numbers. -/
def land : Value → Value → Answer Value
  | number x, number y => arithmetic "&" .land x y
  | x, y => .error (.noOperator "&" x.typeName y.typeName)

/-- The negated number. -/
def neg : Value → Answer Value
  | number x => do return number (← x.neg)
  | float x => .ok (float (-x))
  | v => .error (.noNegation v.typeName)

/-- The absolute value of a number. -/
def abs : Value → Answer Value
  | number x => do return number (← x.abs)
  | float x => .ok (float x.abs)
  | v => .error (.noAbs v.typeName)

/-- The integer that a value is. -/
def index : Value → Answer Int
  | number x => .ok x.toInt
  | v => .error (.notAnIndex v.typeName)

/-- The places that a shift moves by. -/
def shiftCount (count : Value) : Answer Nat := do
  let k ← count.index
  if k < 0 then throw .negativeShift
  return k.toNat

/-- A shift, by a count of any type if the number is of a bounded type, and by an unbounded count
otherwise. -/
def shift (symbol : String) (op : Number → Nat → Answer Number) : Value → Value → Answer Value
  | number x, count =>
    match x.rep, count with
    | .unbounded, number ⟨.unbounded, _⟩ | .fixed _, _ | .signMagnitude _, _ => do
      return number (← op x (← shiftCount count))
    | _, _ => .error (.noOperator symbol x.typeName count.typeName)
  | x, count => .error (.noOperator symbol x.typeName count.typeName)

/-- Integers are held as groups of so many binary digits. -/
def groupSize : Nat := 30

/-- The number of groups that can be counted. -/
def maxGroups : Nat := 2305843009213693945

/-- The groups that an integer with `length` binary digits takes when it is moved `k` places up. -/
def groupsAfter (length k : Nat) : Nat :=
  (length + groupSize - 1) / groupSize + (k + groupSize - 1) / groupSize

/-- The number moved `k` places up, where `limit` places are more than can be held. All places are
made before any of them is dropped. -/
def shiftUp (limit : Nat) (x : Number) (k : Nat) : Answer Number :=
  if x.toInt = 0 then .ok (x.shl k)
  else if maxGroups < groupsAfter (bitLength x.toInt) k then .error .tooManyDigits
  else if limit ≤ k then .error .outOfMemory
  else .ok (x.shl k)

/-- The bit pattern of a number moved up, where `limit` places are more than can be held. -/
def shlWithin (limit : Nat) : Value → Value → Answer Value := shift "<<" (shiftUp limit)

/-- The bit pattern of a number moved up. -/
def shl : Value → Value → Answer Value := shlWithin memoryLimit

/-- The bit pattern of a number moved down. -/
def shr : Value → Value → Answer Value := shift ">>" fun x k ↦ .ok (x.shr k)

/-- The quotient of two positive numbers, rounded down; bounded types have no such operator. -/
def floorDiv : Value → Value → Answer Value
  | number ⟨.unbounded, j⟩, number ⟨.unbounded, k⟩ => .ok (int (j / k))
  | x, y => floating "//" Binary64.floorDiv x y

/-- Quotient and remainder, from the quotient of the absolute values. -/
def divMod (x y : Value) : Answer (Value × Value) := do
  if y.eq (int 0) then throw (.failure .divisionByZero)
  let absX ← x.abs
  let absY ← y.abs
  let q ← floorDiv absX absY
  let opposite := (x.lt? (int 0)).getD false != (y.lt? (int 0)).getD false
  let q ← if opposite then neg q else pure q
  return (q, ← sub x (← mul y q))

/-- A result of a division by a number that has to be accepted by the dividend. -/
def divide (op : Number.BinaryOp) (x : Number) (y : Value) : Answer Value :=
  let result? := match y with
    | number y => Number.operateLeft? op x y
    | _ => none
  match result? with
  | some result => do return number (← result)
  | none => .error (.cannotDivide x.typeName y.typeName)

/-- The quotient rounded toward zero, in the representation of the dividend. -/
def quo : Value → Value → Answer Value
  | number ⟨.unbounded, k⟩, y => do return (← divMod (int k) y).1
  | number x, y => divide .quo x y
  | x, _ => .error (.notNumeric x.typeName)

/-- The remainder of the quotient rounded toward zero, in the representation of the dividend. -/
def rem : Value → Value → Answer Value
  | number ⟨.unbounded, k⟩, y => do return (← divMod (int k) y).2
  | number x, y => divide .rem x y
  | x, _ => .error (.notNumeric x.typeName)

/-- The product in the representation of the first factor; nothing when that does not represent
it. -/
def mul? : Value → Value → Answer (Option Value)
  | number ⟨.unbounded, k⟩, y => some <$> mul (int k) y
  | number x, y =>
    let result? := match y with
      | number y => Number.mulLeft? x y
      | _ => none
    match result? with
    | some result => do return (← result).map number
    | none => .error (.cannotMultiply x.typeName y.typeName)
  | x, _ => .error (.notNumeric x.typeName)

/-- The distance of two signed magnitudes. -/
def absSub : Value → Value → Answer Value
  | number ⟨.signMagnitude w, x⟩, y =>
    let x : Number := ⟨.signMagnitude w, x⟩
    let result? := match y with
      | number y => Number.absSub? x y
      | _ => none
    match result? with
    | some result => do return number (← result)
    | none => .error (.cannotSubtract y.typeName x.typeName)
  | x, _ => .error (.noMember x.typeName "abs_sub")

/-- One with the sign of a signed magnitude. -/
def signum : Value → Answer Value
  | number ⟨.signMagnitude w, x⟩ => .ok (number ⟨.signMagnitude w, x.signum⟩)
  | x => .error (.noMember x.typeName "signum")

/-- Whether a signed magnitude is below zero. -/
def isNegative : Value → Answer Bool
  | number ⟨.signMagnitude _, x⟩ => .ok x.isNegative
  | x => .error (.noMember x.typeName "is_negative")

/-- Whether a signed magnitude is above zero. -/
def isPositive : Value → Answer Bool
  | number ⟨.signMagnitude _, x⟩ => .ok x.isPositive
  | x => .error (.noMember x.typeName "is_positive")

/-- The number of bits in which a number is held. -/
def width : Value → Answer Nat
  | number x => .ok x.width
  | v => .error (.notNumeric v.typeName)

end Aliquot.Value
