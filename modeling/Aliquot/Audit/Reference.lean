/-!
# Reference arithmetic on integers

Greatest common divisors, inverses and powers in their textbook forms, with results that are never
negative. They serve to check the algorithms on checked integers. An audit takes its references as
a `References`, so that any other arithmetic can stand in for the textbook one.

Source: the references that `bezout.crosscheck` compares with. All but the powers come from a
library, which the parameter stands for.
-/

namespace Aliquot

namespace Reference

/-- A combination `x*a + y*b = gcd` of two numbers. -/
structure Combination where
  x : Int
  y : Int
  gcd : Int
  deriving DecidableEq, Repr

/-- The rows of the Euclidean algorithm on natural numbers: the coefficients `(x, y)` belong to `a`
and `(r, s)` to `b`. -/
def combineLoop (a b : Nat) (x r y s : Int) : Combination :=
  if _h : b = 0 then ⟨x, y, a⟩
  else
    let q : Int := (a / b : Nat)
    combineLoop b (a % b) r (x - q * r) s (y - q * s)
termination_by b
decreasing_by exact Nat.mod_lt _ (Nat.pos_of_ne_zero _h)

/-- A combination of two integers to their greatest common divisor. -/
def combine (a b : Int) : Combination :=
  if a = 0 ∧ b = 0 then ⟨0, 0, 0⟩
  else if a = 0 then ⟨0, b.sign, b.natAbs⟩
  else if b = 0 then ⟨a.sign, 0, a.natAbs⟩
  else
    let c := combineLoop a.natAbs b.natAbs 1 0 0 1
    ⟨a.sign * c.x, b.sign * c.y, c.gcd⟩

/-- The greatest common divisor. -/
def gcd (a b : Int) : Int := a.gcd b

/-- The least common multiple. -/
def lcm (a b : Int) : Int := a.lcm b

/-- The inverse of `n` modulo a positive `m`, between zero and `m`; there is none modulo one. -/
def inverse? (n m : Int) : Option Int :=
  if m = 1 ∨ gcd n m ≠ 1 then none else some ((combine n m).x % m)

/-- Whether `a*x + b*y = c` has a solution. -/
def isSolvable (a b c : Int) : Bool := decide (gcd a b ∣ c)

/-- The residue of the `n`-th power of `a` modulo a positive `m`. -/
def power (a : Int) (n : Nat) (m : Int) : Int :=
  if _h : n = 0 then 1 % m
  else
    let root := power (a * a % m) (n / 2) m
    if n % 2 = 1 then root * a % m else root
termination_by n
decreasing_by omega

end Reference

/-- The arithmetic that an audit compares with. -/
structure References where
  /-- A combination of two numbers to their greatest common divisor. -/
  combine : Int → Int → Reference.Combination
  gcd : Int → Int → Int
  lcm : Int → Int → Int
  /-- The inverse of a number modulo a positive one, if there is one. -/
  inverse? : Int → Int → Option Int
  /-- Whether `a*x + b*y = c` has a solution for `a` and `b` that are not zero. -/
  isSolvable : Int → Int → Int → Bool

namespace References

/-- The textbook forms. -/
def textbook : References where
  combine := Reference.combine
  gcd := Reference.gcd
  lcm := Reference.lcm
  inverse? := Reference.inverse?
  isSolvable := Reference.isSolvable

/-- Whether `a*x + b*y = c` has a solution, `true` or nothing. -/
def solvable? (ref : References) (a b c : Int) : Option Bool :=
  if ref.isSolvable a b c then some true else none

/-- The number of residues modulo `m` that solve `a*x ≡ b`, if there are any. -/
def residueCount? (ref : References) (a b m : Int) : Option Int :=
  if b % ref.gcd a m = 0 then some (ref.gcd a m) else none

end References

end Aliquot
