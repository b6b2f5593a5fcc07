import Aliquot.BinaryInsertion
import Aliquot.Value.Basic

/-!
# Comparison of operands

Numbers compare as their types say, unbounded integers also with floating-point numbers, and texts
with texts. Everything else is unequal and has no order.

Source: the comparisons of `FixedInt` and `SignMagnitude`, and those of the runtime.
-/

namespace Aliquot.Value

/-- The values are equal. -/
def eq : Value → Value → Bool
  | number x, number y => x.eq y
  | number ⟨.unbounded, k⟩, float x | float x, number ⟨.unbounded, k⟩ =>
    Binary64.compareInt? x k == some .eq
  | float x, float y => x == y
  | text s, text t => s == t
  | null, null => true
  | _, _ => false

/-- Whether the first value is the smaller one; nothing when the values have no order. -/
def lt? : Value → Value → Option Bool
  | number x, number y => x.lt? y
  | float x, number ⟨.unbounded, k⟩ => some (Binary64.compareInt? x k == some .lt)
  | number ⟨.unbounded, k⟩, float x => some (Binary64.compareInt? x k == some .gt)
  | float x, float y => some (x < y)
  | text s, text t => some (s < t)
  | _, _ => none

/-- The values are not equal. -/
def ne : Value → Value → Bool
  | number x, number y => x.ne y
  | x, y => !x.eq y

/-- The comparisons of values are those of numbers. -/
abbrev Comparison := Aliquot.Comparison

/-- Whether a comparison holds; nothing when the values have no order. -/
def holds? (c : Comparison) : Value → Value → Option Bool
  | number x, number y => x.compare? c y
  | x, y =>
    match c with
    | .less => x.lt? y
    | .lessEqual => (x.lt? y).map (· || x.eq y)
    | .greater => y.lt? x
    | .greaterEqual => (y.lt? x).map (· || x.eq y)

/-- Whether a comparison holds. -/
def compare (c : Comparison) (x y : Value) : Answer Bool :=
  match holds? c x y with
  | some b => .ok b
  | none => .error (.noOrder c.symbol x.typeName y.typeName)

/-- The values in ascending order. -/
def sort (values : List Value) : Answer (List Value) :=
  BinaryInsertion.sort (compare .less) values

/-- What equal values have in common: numbers that are equal as integers or as floating-point
numbers have the same fingerprint. The empty text shares that of zero. -/
inductive Fingerprint where
  | residue (k : Int)
  | text (s : String)
  | null
  | unique
  deriving DecidableEq, Repr

/-- Fingerprints count modulo this prime. -/
def fingerprintModulus : Nat := twoPow 61 - 1

/-- The residue of a magnitude with its sign; `-1` stands apart and shares the residue of `-2`. -/
def signedResidue (magnitude : Nat) (negative : Bool) : Int :=
  let residue : Nat := magnitude % fingerprintModulus
  if !negative then residue else if residue = 1 then -2 else -(residue : Int)

/-- The fingerprint of a value. -/
def fingerprint : Value → Fingerprint
  | number x => .residue (signedResidue x.toInt.natAbs (decide (x.toInt < 0)))
  | float x =>
    match Binary64.finite? x with
    | some x =>
      .residue (signedResidue (x.significand * twoPow (x.exponent % 61).toNat) x.negative)
    | none =>
      if x.isNaN then .unique
      else .residue (if Binary64.isNegative x then -314159 else 314159)
  | text s => if s.isEmpty then .residue 0 else .text s
  | null => .null

/-- The values cannot be told apart by their fingerprints. -/
def sameFingerprint (x y : Value) : Bool :=
  x.fingerprint != .unique && x.fingerprint == y.fingerprint

end Aliquot.Value
