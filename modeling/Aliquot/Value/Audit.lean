import Aliquot.Audit.Basic
import Aliquot.Value.NumberTheory

/-!
# Audits in a type of any kind

Only types of numbers with a sign can be audited.

Source: `crosscheck` in `bezout.crosscheck`.
-/

namespace Aliquot.Value

/-- The audit of three integers in the type `k` with the references `ref`. -/
def auditWith (ref : References) (k : Kind) (a b m : Int) : Answer Audit :=
  match k with
  | .number r => do
    if r.isUnsigned then
      let _ ← ([a, b, m].mapM (Number.ofInt r) : Checked (List Number))
      throw (.unsignedNumber r.typeName)
    Audit.run ref r a b m
  | .anyMagnitude => .error .noMagnitudeType
  | k => .error (.noTypeMember k.name "from_int")

/-- The audit of three integers in the type `k`. -/
def audit (k : Kind) (a b m : Int) : Answer Audit := auditWith .textbook k a b m

end Aliquot.Value
