import Aliquot.Number.Basic

/-!
# Comparison of numbers

A type compares its values with those of the types it knows and declines all others. Unbounded
integers know only themselves; a bounded type knows its own values and the unbounded integers, and
the default fixed-width format knows every format. To compare two numbers both of their types are
asked, one after the other, until one does not decline. Numbers that no type compares are unequal
and have no order.

Source: the comparisons of `FixedInt` in `bezout.numeric` and of `SignMagnitude` in
`bezout.sign_magnitude`.
-/

namespace Aliquot

/-- The comparisons that depend on an order. -/
inductive Comparison where
  | less | lessEqual | greater | greaterEqual
  deriving DecidableEq, Repr

namespace Comparison

/-- The sign that a comparison is written with. -/
def symbol : Comparison → String
  | less => "<"
  | lessEqual => "<="
  | greater => ">"
  | greaterEqual => ">="

/-- The comparison that holds when the operands change places. -/
def converse : Comparison → Comparison
  | less => greater
  | lessEqual => greaterEqual
  | greater => less
  | greaterEqual => lessEqual

/-- Whether the comparison holds of two integers. -/
def ofInts : Comparison → Int → Int → Bool
  | less, j, k => decide (j < k)
  | lessEqual, j, k => decide (j ≤ k)
  | greater, j, k => decide (j > k)
  | greaterEqual, j, k => decide (j ≥ k)

/-- The converse holds of the integers in the other order. -/
@[simp] theorem converse_ofInts (c : Comparison) (j k : Int) :
    c.converse.ofInts k j = c.ofInts j k := by
  cases c <;> rfl

end Comparison

namespace Rep

/-- Whether the values of the first type count among those of the second one: every format of fixed
width is derived from the default one. -/
def isA : Rep → Rep → Bool
  | fixed _, fixed .word => true
  | r, s => r == s

end Rep

namespace Number

/-- Whether numbers of two representations can be compared: the same one twice, an unbounded integer
on either side, or two fixed widths of which one has the default format. -/
def Comparable : Rep → Rep → Bool
  | .unbounded, _ | _, .unbounded => true
  | .fixed .word, .fixed _ | .fixed _, .fixed .word => true
  | r, s => r == s

/-- A test of two numbers by the type of the first one, unless it declines. Signed magnitudes of one
width are tested by their parts, all other numbers by their integers. -/
def ownTest? (ofInts : Int → Int → Bool)
    (ofParts : (w : Width) → SignMagnitude w → SignMagnitude w → Bool) :
    Number → Number → Option Bool
  | ⟨.unbounded, j⟩, ⟨.unbounded, k⟩ => some (ofInts j k)
  | ⟨.fixed f, x⟩, ⟨.fixed g, y⟩ =>
    if Rep.isA (.fixed g) (.fixed f) then some (ofInts x.val y.val) else none
  | ⟨.fixed _, x⟩, ⟨.unbounded, k⟩ => some (ofInts x.val k)
  | ⟨.signMagnitude v, x⟩, ⟨.signMagnitude w, y⟩ =>
    if h : w = v then some (ofParts v x (h ▸ y)) else none
  | ⟨.signMagnitude _, x⟩, ⟨.unbounded, k⟩ => some (ofInts (SignMagnitude.toInt x) k)
  | _, _ => none

/-- The test for equality that the type of the first number makes, unless it declines. -/
def ownEq? : Number → Number → Option Bool := ownTest? (· == ·) fun _ ↦ SignMagnitude.eq

/-- The test for a smaller number that the type of the first number makes, unless it declines. -/
def ownLt? : Number → Number → Option Bool :=
  ownTest? (fun j k ↦ decide (j < k)) fun _ ↦ SignMagnitude.lt

/-- The first answer that is given. The type of the left operand is asked first, unless the type of
the right operand is derived from it. -/
def consult (x y : Number) (left right : Option Bool) : Option Bool :=
  if x.rep ≠ y.rep ∧ y.rep.isA x.rep then right.or left else left.or right

/-- The numbers are equal. -/
def eq (x y : Number) : Bool := (consult x y (x.ownEq? y) (y.ownEq? x)).getD false

/-- The numbers are not equal: each type turns its test for equality around. -/
def ne (x y : Number) : Bool :=
  (consult x y ((x.ownEq? y).map not) ((y.ownEq? x).map not)).getD true

/-- What the type of the first number says of a comparison, unless it declines. All comparisons come
from its test for a smaller number, together with the outcome of the one for equality. -/
def own? (c : Comparison) (x y : Number) : Option Bool :=
  match c with
  | .less => x.ownLt? y
  | .lessEqual => (x.ownLt? y).map (· || x.eq y)
  | .greater => (x.ownLt? y).map (!· && x.ne y)
  | .greaterEqual => (x.ownLt? y).map not

/-- Whether a comparison holds; nothing when both types decline. The right operand is asked for the
converse. -/
def compare? (c : Comparison) (x y : Number) : Option Bool :=
  consult x y (x.own? c y) (y.own? c.converse x)

/-- Whether the first number is the smaller one; nothing when they are not comparable. -/
def lt? (x y : Number) : Option Bool := compare? .less x y

end Number

end Aliquot
