import Aliquot.Audit.Reference
import Aliquot.Congruence
import Aliquot.Document
import Aliquot.Euclid.Gcd
import Aliquot.Fault
import Aliquot.Power
import Aliquot.Representation

/-!
# Audits

An audit runs the algorithms on three numbers in one representation and compares each result with
its reference. A failure agrees with the reference when it says that there is no solution and the
reference has none either. Only failures that are reported under a category are compared; any other
ends the audit.

Source: `crosscheck` and `_check` in `bezout.crosscheck`.
-/

namespace Aliquot

open CheckedInt

/-- One comparison. -/
structure Check where
  name : String
  agrees : Bool
  /-- What the algorithm yielded, or the category of its failure. -/
  outcome : Except Category Document
  reference : Document

namespace Check

/-- Compares the result of a run with its reference, which may be that there is no answer. A failure
that is not reported under a category is passed on: a division by zero, and one whose text cannot be
written. -/
def ofRun {β γ : Type} (name : String) (run : Checked β) (reference? : Option γ)
    (agree : β → γ → Bool) (show₁ : β → Document) (show₂ : γ → Document) : Answer Check :=
  let reference := (reference?.map show₂).getD .null
  match run with
  | .ok result => .ok ⟨name, reference?.any (agree result), .ok (show₁ result), reference⟩
  | .error e =>
    match (Fault.failure e).reported.kind with
    | .failure category =>
      .ok ⟨name, category == .noSolution && reference?.isNone, .error category, reference⟩
    | _ => .error (.failure e)

/-- The document of a comparison. -/
def toDocument (c : Check) : Document :=
  let outcome := match c.outcome with
    | .ok result => ("engine", result)
    | .error category => ("engine_error", .text category.tag)
  .object [("check", .text c.name), ("ok", .bool c.agrees), outcome, ("reference", c.reference)]

end Check

namespace Audit

variable {α : Type} [CheckedInt α]

/-- The divisor that the extended algorithm finds and its coefficients. -/
def combination (x y : α) : Checked (Int × Int × Int) := do
  let row ← Euclid.xgcd x y
  return (toInt row.value, toInt row.coeff₁, toInt row.coeff₂)

/-- The first two pairs that solve an equation. -/
def firstPairs (x y z : α) : Checked (List (Int × Int)) := do
  let (family, _) ← Diophantine.solve x y z
  let pairs ← family.take 0 2
  return pairs.map fun (u, v) ↦ (toInt u, toInt v)

/-- The power with the magnitude of `y` as its exponent. -/
def magnitudePower (x y z : α) : Checked Int := do
  let n ← abs y
  return toInt (← powMod x n z)

variable (ref : References)

/-- The coefficients found combine the numbers to a value whose magnitude is the greatest common
divisor. -/
def checkCombination (a b : Int) (x y : α) : Answer Check :=
  Check.ofRun "extended_gcd" (combination x y) (some (ref.combine a b))
    (fun (g, c₁, c₂) r ↦ c₁ * a + c₂ * b == g && (g.natAbs : Int) == r.gcd)
    (fun (g, c₁, c₂) ↦ .ints [g, c₁, c₂]) (fun r ↦ .ints [r.x, r.y, r.gcd])

/-- The greatest common divisor is the reference's. -/
def checkGcd (a b : Int) (x y : α) : Answer Check :=
  Check.ofRun "gcd" (toInt <$> Euclid.gcd x y) (some (ref.gcd a b)) (· == ·) .int .int

/-- The least common multiple is the reference's up to its sign. -/
def checkLcm (a b : Int) (x y : α) : Answer Check :=
  Check.ofRun "lcm" (toInt <$> Euclid.lcm x y) (some (ref.lcm a b))
    (fun k r ↦ (k.natAbs : Int) == r) .int .int

/-- The first two pairs of the family solve the equation. -/
def checkDiophantine (a b m : Int) (x y z : α) : Answer Check :=
  Check.ofRun "solve_diophantine" (firstPairs x y z) (ref.solvable? a b m)
    (fun pairs _ ↦ pairs.all fun (u, v) ↦ a * u + b * v == m)
    (fun pairs ↦ .list (pairs.map fun (u, v) ↦ .ints [u, v])) .bool

/-- No integer occurs twice; equals are neighbours once the integers are in order. -/
def allDistinct (ks : List Int) : Bool :=
  let sorted := ks.mergeSort (· ≤ ·)
  (sorted.zip sorted.tail).all fun (j, k) ↦ j != k

/-- The residues are distinct solutions in the range, as many as the reference says. -/
def checkCongruence (a b m : Int) (x y z : α) : Answer Check :=
  Check.ofRun "solve_linear_congruence" (List.map toInt <$> Congruence.solve x y z)
    (ref.residueCount? a b m)
    (fun rs (n : Int) ↦ (rs.length : Int) == n && allDistinct rs &&
      rs.all fun r ↦ 0 ≤ r && r < m && (a * r - b) % m == 0)
    .ints .int

/-- The inverse is congruent to the reference's. -/
def checkInverse (a m : Int) (x z : α) : Answer Check :=
  Check.ofRun "inverse_mod" (toInt <$> Congruence.inverse x z) (ref.inverse? a m)
    (fun k r ↦ (k - r) % m == 0) .int .int

/-- The power with the magnitude of `b` as its exponent is congruent to the reference's. -/
def checkPower (a b m : Int) (x y z : α) : Answer Check :=
  Check.ofRun "power" (magnitudePower x y z) (some (Reference.power a b.natAbs m))
    (fun k r ↦ (k - r) % m == 0) .int .int

/-- The comparisons that make sense for the numbers `a`, `b` and `m`, whose values are `x`, `y` and
`z`: no multiple of two zeros, no equation with a zero coefficient, no modulus that is not
positive. -/
def comparisons (a b m : Int) (x y z : α) : List (Answer Check) :=
  let always := [checkCombination ref a b x y, checkGcd ref a b x y]
  let nonzero := if a ≠ 0 ∨ b ≠ 0 then [checkLcm ref a b x y] else []
  let equation := if a ≠ 0 ∧ b ≠ 0 then [checkDiophantine ref a b m x y z] else []
  let modular := if m > 0 then
    [checkCongruence ref a b m x y z, checkInverse ref a m x z, checkPower a b m x y z] else []
  always ++ nonzero ++ equation ++ modular

/-- Makes the comparisons one after the other. -/
def checkAll (a b m : Int) (x y z : α) : Answer (List Check) :=
  (comparisons ref a b m x y z).mapM id

end Audit

/-- The comparisons made on three numbers in one representation. -/
structure Audit where
  a : Int
  b : Int
  m : Int
  typeName : String
  checks : List Check

namespace Audit

/-- Converts three numbers to the representation `r` and compares with the references `ref`. -/
def run (ref : References) (r : Rep) (a b m : Int) : Answer Audit := do
  let x ← (ofInt a : Checked r.Carrier)
  let y ← (ofInt b : Checked r.Carrier)
  let z ← (ofInt m : Checked r.Carrier)
  return { a, b, m, typeName := r.typeName, checks := ← checkAll ref a b m x y z }

/-- All comparisons agree. -/
def allAgree (audit : Audit) : Bool := audit.checks.all Check.agrees

/-- The document of an audit. -/
def toDocument (audit : Audit) : Document :=
  .object [("method", .text "crosscheck"), ("a", .int audit.a), ("b", .int audit.b),
    ("m", .int audit.m), ("type", .text audit.typeName),
    ("checks", .list (audit.checks.map Check.toDocument)), ("all_ok", .bool audit.allAgree)]

end Audit

end Aliquot
