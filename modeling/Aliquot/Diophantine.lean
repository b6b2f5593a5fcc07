import Aliquot.Euclid.Extended

/-!
# Linear equations in two unknowns

The integer solutions of `a*x + b*y = c` are a family of pairs indexed by the integers. A solution
made from the coefficients of `xgcd` is moved along the family until one coordinate is small.

Source: `DiophantineSolutions` and `solve_diophantine` in `bezout.euclidean`.
-/

namespace Aliquot

open CheckedInt

/-- The pairs `(x₀ + i*stepX, y₀ + i*stepY)` for all integers `i`. -/
structure SolutionFamily (α : Type) where
  x₀ : α
  y₀ : α
  stepX : α
  stepY : α
  deriving DecidableEq, Repr

variable {α : Type} [CheckedInt α]

/-- The pair with index `i`. -/
def SolutionFamily.at (s : SolutionFamily α) (i : Int) : Checked (α × α) := do
  let t ← ofInt i
  let x ← add s.x₀ (← mul s.stepX t)
  let y ← add s.y₀ (← mul s.stepY t)
  return (x, y)

/-- The first `n` pairs with indices from `start` on. -/
def SolutionFamily.take (s : SolutionFamily α) (start : Int) (n : Nat) : Checked (List (α × α)) :=
  (List.range n).mapM fun i : Nat ↦ s.at (start + i)

namespace Diophantine

/-- The quotient of a coordinate by its step, zero when the step is. -/
def shift (coordinate step : α) : Checked α :=
  if isZero step then .ok zero else quo coordinate step

/-- A solution moved back by `q` steps. -/
def moveBack (x y stepX stepY q : α) : Checked (SolutionFamily α) := do
  let x₀ ← sub x (← mul q stepX)
  let y₀ ← sub y (← mul q stepY)
  return { x₀, y₀, stepX, stepY }

/-- Moves a solution along the steps so that its coordinate of greater absolute value becomes
smaller than the step. -/
def center (x y stepX stepY : α) : Checked (SolutionFamily α) := do
  let absX ← abs x
  let absY ← abs y
  let q ← if lt absY absX then shift x stepX else shift y stepY
  moveBack x y stepX stepY q

/-- Centring moves a solution back by the quotient of the greater coordinate by its step. -/
theorem center_eq (x y stepX stepY : α) :
    center x y stepX stepY = abs x >>= fun absX ↦ abs y >>= fun absY ↦
      (if lt absY absX then shift x stepX else shift y stepY) >>= moveBack x y stepX stepY := by
  unfold center
  congr 1
  funext absX
  congr 1
  funext absY
  cases lt absY absX <;> rfl

/-- The solutions of `a*x + b*y = c`, from a divisor of `c` that `row` combines from `a` and
`b`. -/
def solveWith (a b c : α) (row : Euclid.Row α) : Checked (SolutionFamily α × α) := do
  let x ← quo (← mul c row.coeff₁) row.value
  let y ← quo (← mul c row.coeff₂) row.value
  let stepX ← quo b row.value
  let stepY ← quo (← neg a) row.value
  return (← center x y stepX stepY, row.value)

/-- The integer solutions of `a*x + b*y = c` and the greatest common divisor of `a` and `b`, with
the sign that `xgcd` gives it. -/
def solve (a b c : α) : Checked (SolutionFamily α × α) := do
  let g ← Euclid.xgcd a b
  if isZero g.value then
    if !isZero c then throw (.noPair (toInt c))
    throw .everyPair
  if !isZero (← rem c g.value) then
    throw (.notMultiple (toInt c) (toInt a) (toInt b) (toInt g.value))
  solveWith a b c g

/-- An equation is refused when both coefficients are zero, then when the divisor leaves a
remainder. -/
theorem solve_eq (a b c : α) :
    solve a b c = Euclid.xgcd a b >>= fun row ↦
      if isZero row.value then
        if isZero c then .error .everyPair else .error (.noPair (toInt c))
      else rem c row.value >>= fun r ↦
        if isZero r then solveWith a b c row
        else .error (.notMultiple (toInt c) (toInt a) (toInt b) (toInt row.value)) := by
  unfold solve
  congr 1
  funext row
  cases isZero row.value
  · apply congrArg (rem c row.value >>= ·)
    funext r
    cases isZero r <;> rfl
  · cases isZero c <;> rfl

end Diophantine

end Aliquot
