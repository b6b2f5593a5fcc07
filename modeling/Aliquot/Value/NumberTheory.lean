import Aliquot.Euclid.Gcd
import Aliquot.Power
import Aliquot.Value.Convert

/-!
# Number theory on operands of any kind

The operands of one computation are brought to one representation first: the only bounded one among
them, to which unbounded integers are then converted. Operands that are no numbers, numbers of two
bounded types and numbers of unsigned types are refused before any integer is converted.

Source: `unify` in `bezout.numeric`, and the functions of `bezout.euclidean`, `bezout.power_mod` and
`bezout.bits`.
-/

namespace Aliquot.Value

/-- The representation that a scan has found when it comes to the value `v`, given the one found
before. -/
def joinRep (found : Rep) (v : Value) : Answer Rep :=
  match v with
  | number x =>
    if x.rep = .unbounded then .ok found
    else if found ≠ .unbounded ∧ found ≠ x.rep then .error (.mixed found.typeName x.typeName)
    else if x.rep.isUnsigned then .error (.unsignedNumber x.typeName)
    else .ok x.rep
  | v => .error (.notNumeric v.typeName)

/-- The representation that values have in common: the bounded one among them, if there is one. -/
def commonRep (values : List Value) : Answer Rep := values.foldlM joinRep .unbounded

/-- A value in the representation `r`. -/
def into (r : Rep) : Value → Answer r.Carrier
  | number x => x.into r
  | v => .error (.notNumeric v.typeName)

/-- The values in the representation that they have in common. -/
def align (values : List Value) : Answer (List Number) := do
  let r ← commonRep values
  values.mapM fun v ↦ do return ⟨r, ← v.into r⟩

/-- A computation on two values in their common representation. -/
def onPair {β : Type} (f : (r : Rep) → r.Carrier → r.Carrier → Checked β) (x y : Value) :
    Answer β := do
  let r ← commonRep [x, y]
  let x ← x.into r
  let y ← y.into r
  f r x y

/-- A computation on three values in their common representation. -/
def onTriple {β : Type} (f : (r : Rep) → r.Carrier → r.Carrier → r.Carrier → Checked β)
    (x y z : Value) : Answer β := do
  let r ← commonRep [x, y, z]
  let x ← x.into r
  let y ← y.into r
  let z ← z.into r
  f r x y z

/-- A result of a computation in the representation `r`. -/
def ofCarrier (r : Rep) (x : r.Carrier) : Value := number ⟨r, x⟩

/-- The greatest common divisor with its two coefficients. -/
def xgcd : Value → Value → Answer (Euclid.Row Value) :=
  onPair fun r a b ↦ do
    let row ← Euclid.xgcd a b
    return ⟨ofCarrier r row.value, ofCarrier r row.coeff₁, ofCarrier r row.coeff₂⟩

/-- The greatest common divisor. -/
def gcd : Value → Value → Answer Value := onPair fun r a b ↦ ofCarrier r <$> Euclid.gcd a b

/-- The least common multiple. -/
def lcm : Value → Value → Answer Value := onPair fun r a b ↦ ofCarrier r <$> Euclid.lcm a b

/-- The integer solutions of `a*x + b*y = c`, and the greatest common divisor of `a` and `b`. -/
def solveDiophantine : Value → Value → Value → Answer (SolutionFamily Value × Value) :=
  onTriple fun r a b c ↦ do
    let (family, g) ← Diophantine.solve a b c
    return (⟨ofCarrier r family.x₀, ofCarrier r family.y₀, ofCarrier r family.stepX,
      ofCarrier r family.stepY⟩, ofCarrier r g)

/-- The residues that solve `a*x ≡ b` modulo `m`. -/
def solveCongruence : Value → Value → Value → Answer (List Value) :=
  onTriple fun r a b m ↦ List.map (ofCarrier r) <$> Congruence.solve a b m

/-- The inverse of `n` modulo `m`. -/
def inverse : Value → Value → Answer Value :=
  onPair fun r n m ↦ ofCarrier r <$> Congruence.inverse n m

/-- The remainder of the `n`-th power of `x` by `m`. -/
def powMod : Value → Value → Value → Answer Value :=
  onTriple fun r x n m ↦ ofCarrier r <$> Aliquot.powMod x n m

/-- The position of the highest set bit. -/
def topBitIndex : Value → Answer Nat
  | number x => .ok (BitScan.topBitIndex x.val)
  | v => .error (.notNumeric v.typeName)

/-- The greatest power of two that is not above a value; zero for everything that is not
positive. -/
def topBit : Value → Answer Value
  | number x => .ok (number ⟨x.rep, BitScan.topBit x.val⟩)
  | v => do
    if ← compare .lessEqual v (int 0) then return int 0
    throw (.notNumeric v.typeName)

/-- The pair with index `i` in a family whose numbers need not be of one type. The index takes the
type of the first coordinate. -/
def pairAt (s : SolutionFamily Value) (i : Value) : Answer (Value × Value) := do
  let t ← countLike s.x₀ i
  let x ← add s.x₀ (← mul s.stepX t)
  let y ← add s.y₀ (← mul s.stepY t)
  return (x, y)

/-- The pairs with the first `n` indices. -/
def takePairs (s : SolutionFamily Value) (n : Nat) : Answer (List (Value × Value)) :=
  (List.range n).mapM fun i : Nat ↦ pairAt s (int i)

/-- Families are equal when their numbers are. -/
def sameFamily (s t : SolutionFamily Value) : Bool :=
  s.x₀.eq t.x₀ && s.y₀.eq t.y₀ && s.stepX.eq t.stepX && s.stepY.eq t.stepY

/-- The text that shows a family. -/
def describeFamily (s : SolutionFamily Value) : Answer String := do
  let x₀ ← s.x₀.describe
  let y₀ ← s.y₀.describe
  let stepX ← s.stepX.describe
  let stepY ← s.stepY.describe
  return s!"DiophantineSolutions(x0={x₀}, y0={y₀}, step_x={stepX}, step_y={stepY})"

end Aliquot.Value
