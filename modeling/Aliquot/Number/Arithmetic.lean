import Aliquot.Number.Basic

/-!
# Operators on numbers of mixed representations

An operator works in the representation of one of its operands, which has to accept the other one.
Every representation accepts its own values and unbounded integers, which it converts first. The
default fixed-width format accepts each fixed-width value, as the integer it is.

Source: the operators and `_operand` of `FixedInt` in `bezout.numeric` and of `SignMagnitude` in
`bezout.sign_magnitude`.
-/

namespace Aliquot.Number

/-- An operand as a representation accepts it. -/
inductive Operand (r : Rep) where
  /-- A value of the representation. -/
  | own (y : r.Carrier)
  /-- The integer of a value of another format. -/
  | foreign (k : Int)

/-- How the representation `r` accepts the number `y`, if it does. -/
def operand? (r : Rep) (y : Number) : Option (Checked (Operand r)) :=
  if h : y.rep = r then some (.ok (.own (h ▸ y.val)))
  else match r, y.rep with
    | r, .unbounded => some (Operand.own <$> (CheckedInt.ofInt y.toInt : Checked r.Carrier))
    | .fixed .word, .fixed _ => some (.ok (.foreign y.toInt))
    | _, _ => none

/-- A binary operation in each representation. -/
abbrev BinaryOp := (r : Rep) → r.Carrier → r.Carrier → Checked r.Carrier

namespace BinaryOp

def add : BinaryOp := fun _ ↦ CheckedInt.add
def sub : BinaryOp := fun _ ↦ CheckedInt.sub
def mul : BinaryOp := fun _ ↦ CheckedInt.mul
def quo : BinaryOp := fun _ ↦ CheckedInt.quo
def rem : BinaryOp := fun _ ↦ CheckedInt.rem

/-- The absolute value of the difference, which signed magnitudes find without the difference. -/
def distance : BinaryOp
  | .signMagnitude _, x, y => SignMagnitude.absSub x y
  | _, x, y => do CheckedInt.abs (← CheckedInt.sub x y)

/-- The conjunction of bit patterns never fails on operands of one representation. -/
def land : BinaryOp := fun _ x y ↦ .ok (CheckedInt.land x y)

end BinaryOp

/-- `op` on two operands of which the first one is accepted by the representation `r`. A foreign
operand makes the operation exact, and its result is then converted to `r`. -/
def applyFirst (op : BinaryOp) (r : Rep) (x : Operand r) (y : r.Carrier) : Checked r.Carrier :=
  match x with
  | .own x => op r x y
  | .foreign k => do CheckedInt.ofInt (← op .unbounded k (CheckedInt.toInt y))

/-- `op` on two operands of which the second one is accepted by the representation `r`. -/
def applySecond (op : BinaryOp) (r : Rep) (x : r.Carrier) (y : Operand r) : Checked r.Carrier :=
  match y with
  | .own y => op r x y
  | .foreign k => do CheckedInt.ofInt (← op .unbounded (CheckedInt.toInt x) k)

/-- `op` in the representation of the first number, if it accepts the second one. -/
def operateLeft? (op : BinaryOp) (x y : Number) : Option (Checked Number) :=
  (operand? x.rep y).map fun operand ↦ do
    return ⟨x.rep, ← applySecond op x.rep x.val (← operand)⟩

/-- `op` in the representation of the second number, if it accepts the first one. -/
def operateRight? (op : BinaryOp) (x y : Number) : Option (Checked Number) :=
  (operand? y.rep x).map fun operand ↦ do
    return ⟨y.rep, ← applyFirst op y.rep (← operand) y.val⟩

/-- `op` in the representation of a number that accepts the other one; nothing when neither
does. -/
def operate? (op : BinaryOp) (x y : Number) : Option (Checked Number) :=
  (operateLeft? op x y).orElse fun _ ↦ operateRight? op x y

/-- The product in the representation of the first number: nothing inside when that does not
represent it, nothing at all when it does not accept the second number. -/
def mulLeft? (x y : Number) : Option (Checked (Option Number)) :=
  (operand? x.rep y).map fun operand ↦ do
    let product? := match ← operand with
      | .own y => CheckedInt.mul? x.val y
      | .foreign k => (CheckedInt.ofInt (x.toInt * k)).toOption
    return product?.map (Number.mk x.rep)

/-- The distance of two signed magnitudes; nothing when the first number is not one or does not
accept the second one. -/
def absSub? (x y : Number) : Option (Checked Number) :=
  match x.rep with
  | .signMagnitude _ => operateLeft? .distance x y
  | _ => none

/-- The bit pattern moved `k` places up, in the representation of the number. -/
def shl (x : Number) (k : Nat) : Number := ⟨x.rep, CheckedInt.shl x.val k⟩

/-- The bit pattern moved `k` places down, in the representation of the number. -/
def shr (x : Number) (k : Nat) : Number := ⟨x.rep, CheckedInt.shr x.val k⟩

end Aliquot.Number
