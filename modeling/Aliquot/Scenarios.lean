import Aliquot.Congruence
import Aliquot.Document
import Aliquot.Euclid.Gcd
import Aliquot.Power
import Aliquot.Representation

/-!
# Reference scenarios

Eight computations with known results, each of which should come out as expected.

Source: `selftest` in `bezout.cli`.
-/

namespace Aliquot.Scenarios

/-- A row holds the given divisor and coefficients. -/
def holds (row : Euclid.Row Int) (value coeff₁ coeff₂ : Int) : Bool :=
  row == ⟨value, coeff₁, coeff₂⟩

/-- The first two solutions of `7*x + 13*y = 5` are two solutions. -/
def twoSolutions : Checked Bool := do
  let (family, g) ← Diophantine.solve (7 : Int) 13 5
  let (x₀, y₀) ← family.at 0
  let (x₁, y₁) ← family.at 1
  return g == 1 && 7 * x₀ + 13 * y₀ == 5 && 7 * x₁ + 13 * y₁ == 5 && (x₀, y₀) != (x₁, y₁)

/-- A congruence of large numbers has three solutions. -/
def threeResidues : Checked Bool := do
  let a : Int := 6123123
  let b : Int := 6123123123
  let m : Int := 9123123123123
  let residues ← Congruence.solve a b m
  return residues.length == 3 && residues.all fun r ↦ (a * r - b) % m == 0

/-- A power in 32 bits. -/
def boundedPower : Checked Bool := do
  let x ← Fixed.ofInt (.signed .w32) 2357
  let m ← Fixed.ofInt (.signed .w32) 3599
  return (← powMod x x m).val == 3115

/-- The scenarios with their names. -/
def all : List (String × Checked Bool) :=
  [("egcd_97_18", do return holds (← Euclid.xgcd (97 : Int) 18) 1 (-5) 27),
    ("egcd_541_7919", do return holds (← Euclid.xgcd (541 : Int) 7919) 1 (-1010) 69),
    ("dioph_7_13_5", twoSolutions),
    ("congruence_big", threeResidues),
    ("inverse_3_11", do return (← Congruence.inverse (3 : Int) 11) == 4),
    ("power_2357", do return (← powMod (2357 : Int) 2357 3599) == 3115),
    ("power_2357_i32", boundedPower),
    ("lcm_4_6", do return (← Euclid.lcm (4 : Int) 6) == 12)]

/-- The results of the scenarios with their names. -/
def run : Checked (List (String × Bool)) :=
  all.mapM fun (name, scenario) ↦ do return (name, ← scenario)

/-- All scenarios come out as expected. -/
def allHold (results : List (String × Bool)) : Bool := results.all Prod.snd

/-- The document of the results. -/
def toDocument (results : List (String × Bool)) : Document :=
  .object [("method", .text "selftest"),
    ("results", .object (results.map fun (name, result) ↦ (name, .bool result))),
    ("ok", .bool (allHold results))]

end Aliquot.Scenarios
