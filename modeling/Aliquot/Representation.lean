import Aliquot.CheckedInt.Instances

/-!
# Representations of integers

A `Rep` names one of the types that integers are computed in, so that the type can be chosen while
a program runs. `Rep.Carrier` is the type it names.

Source: the subclasses of `FixedInt` in `bezout.numeric`, and `over` in `bezout.sign_magnitude`.
-/

namespace Aliquot

/-- The names of the types of checked integers. -/
inductive Rep where
  | unbounded
  | fixed (format : Format)
  | signMagnitude (width : Width)
  deriving DecidableEq, Repr

namespace Rep

/-- The type that a representation names. -/
@[reducible] def Carrier : Rep → Type
  | unbounded => Int
  | fixed f => Fixed f
  | signMagnitude w => SignMagnitude w

instance : (r : Rep) → CheckedInt r.Carrier
  | unbounded => inferInstanceAs (CheckedInt Int)
  | fixed f => inferInstanceAs (CheckedInt (Fixed f))
  | signMagnitude w => inferInstanceAs (CheckedInt (SignMagnitude w))

instance : (r : Rep) → DecidableEq r.Carrier
  | unbounded => inferInstanceAs (DecidableEq Int)
  | fixed f => inferInstanceAs (DecidableEq (Fixed f))
  | signMagnitude w => inferInstanceAs (DecidableEq (SignMagnitude w))

/-- The name of the type. -/
def typeName (r : Rep) : String := CheckedInt.typeName r.Carrier

/-- Whether the type holds no negative integer; such types only serve as magnitudes. -/
def isUnsigned : Rep → Bool
  | fixed f => !f.isSigned
  | _ => false

/-- The representable integers: all of them, an interval, or the integers of bounded magnitude. -/
def Represents : Rep → Int → Prop
  | unbounded, _ => True
  | fixed f, k => f.Represents k
  | signMagnitude w, k => k.natAbs ≤ (Format.unsigned w).max

/-- Fixed-width integers are bounded. -/
theorem fixed_ne_unbounded (f : Format) : fixed f ≠ .unbounded := by simp

/-- Signed magnitudes are bounded. -/
theorem signMagnitude_ne_unbounded (w : Width) : signMagnitude w ≠ .unbounded := by simp

end Rep

end Aliquot
