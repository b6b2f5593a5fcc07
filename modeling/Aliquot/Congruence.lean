import Aliquot.Diophantine

/-!
# Linear congruences

The residues `x` with `a*x ≡ b` modulo `m` are the first coordinates of the solutions of
`a*x + m*y = b`, taken modulo `m`. There are as many as the greatest common divisor of `a` and `m`.

Source: `solve_linear_congruence` and `inverse_mod` in `bezout.euclidean`, `to_small` in
`bezout.numeric`.
-/

namespace Aliquot.Congruence

open CheckedInt

variable {α : Type} [CheckedInt α]

/-- The greatest count, which is that of signed 32-bit integers. -/
def maxCount : Int := 2147483647

/-- A number as a count; a failure when it does not fit signed 32-bit integers. -/
def toCount (k : Int) : Checked Int :=
  if -maxCount - 1 ≤ k ∧ k ≤ maxCount then .ok k else .error (.countTooLarge k)

/-- The residue of `x` in `[0, m)`, from its truncating remainder. -/
def residue (x m : α) : Checked α := do
  let r ← rem x m
  if isNeg r then add r m else return r

/-- The residue of the first coordinate with index `i`. -/
def residueAt (family : SolutionFamily α) (m : α) (i : Int) : Checked α := do
  let (x, _) ← family.at i
  residue x m

/-- The residues in `[0, m)` that solve `a*x ≡ b` modulo `m`, in the order of the solutions of
`a*x + m*y = b`. -/
def solve (a b m : α) : Checked (List α) := do
  if le m zero then throw (.modulusNotPositive (toInt m))
  let (family, g) ← Diophantine.solve a m b
  let count ← toCount (toInt (← abs g))
  (List.range count.toNat).mapM fun i : Nat ↦ residueAt family m i

/-- The residue in `[0, m)` whose product with `n` is one modulo `m`. There is at most one, since
the greatest common divisor of `n` and `m` divides one when there is any. -/
def inverse (n m : α) : Checked α := do
  if le m zero then throw (.modulusNotPositive (toInt m))
  let (family, _) ← Diophantine.solve n m one
  residueAt family m 0

/-- A modulus that is not positive is refused before the equation is solved. -/
theorem solve_eq (a b m : α) :
    solve a b m =
      if le m zero then .error (.modulusNotPositive (toInt m))
      else Diophantine.solve a m b >>= fun s ↦ abs s.2 >>= fun g ↦
        toCount (toInt g) >>= fun count ↦
          (List.range count.toNat).mapM fun i : Nat ↦ residueAt s.1 m i := by
  unfold solve
  cases le m zero <;> rfl

/-- The inverse is refused for a modulus that is not positive. -/
theorem inverse_eq (n m : α) :
    inverse n m =
      if le m zero then .error (.modulusNotPositive (toInt m))
      else Diophantine.solve n m one >>= fun s ↦ residueAt s.1 m 0 := by
  unfold inverse
  cases le m zero <;> rfl

end Aliquot.Congruence
