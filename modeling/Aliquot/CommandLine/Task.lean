import Aliquot.CommandLine.Mode

/-!
# Tasks

A task is a mode with its operands, of which each mode takes a fixed number. Operands are integers
at first and values of some representation later on.

Source: the operands of each mode of `build_parser` in `bezout.cli`.
-/

namespace Aliquot.CommandLine

/-- A mode with its operands. -/
inductive Task (α : Type) where
  | xgcd (a b : α)
  | gcd (a b : α)
  | lcm (a b : α)
  | diophantine (a b c : α)
  | congruence (a b m : α)
  | inverse (n m : α)
  | power (x n m : α)
  | topBit (n : α)
  | audit (a b m : α)
  | scenarios
  deriving DecidableEq, Repr

/-- How many operands a mode takes. -/
def Mode.arity : Mode → Nat
  | xgcd | gcd | lcm | inverse => 2
  | diophantine | congruence | power | audit => 3
  | topBit => 1
  | scenarios => 0

namespace Task

variable {α β : Type}

/-- The mode of a task. -/
def mode : Task α → Mode
  | xgcd .. => .xgcd
  | gcd .. => .gcd
  | lcm .. => .lcm
  | diophantine .. => .diophantine
  | congruence .. => .congruence
  | inverse .. => .inverse
  | power .. => .power
  | topBit _ => .topBit
  | audit .. => .audit
  | scenarios => .scenarios

/-- The operands of a task in their order. -/
def operands : Task α → List α
  | xgcd a b | gcd a b | lcm a b | inverse a b => [a, b]
  | diophantine a b c | congruence a b c | power a b c | audit a b c => [a, b, c]
  | topBit n => [n]
  | scenarios => []

/-- The task of a mode with the given operands, if they are as many as the mode takes. -/
def ofList? : Mode → List α → Option (Task α)
  | .xgcd, [a, b] => some (xgcd a b)
  | .gcd, [a, b] => some (gcd a b)
  | .lcm, [a, b] => some (lcm a b)
  | .diophantine, [a, b, c] => some (diophantine a b c)
  | .congruence, [a, b, m] => some (congruence a b m)
  | .inverse, [n, m] => some (inverse n m)
  | .power, [x, n, m] => some (power x n m)
  | .topBit, [n] => some (topBit n)
  | .audit, [a, b, m] => some (audit a b m)
  | .scenarios, [] => some scenarios
  | _, _ => none

/-- A task is put together from its mode and its operands. -/
theorem ofList?_operands (t : Task α) : ofList? t.mode t.operands = some t := by
  cases t <;> rfl

/-- A task that is put together has the given mode and operands. -/
theorem eq_of_ofList? {mode : Mode} {xs : List α} {t : Task α} (h : ofList? mode xs = some t) :
    t.mode = mode ∧ t.operands = xs := by
  unfold ofList? at h
  split at h
  all_goals cases h
  all_goals exact ⟨rfl, rfl⟩

/-- Tasks of one mode with the same operands are the same. -/
theorem eq_of_operands {t t' : Task α} (hmode : t.mode = t'.mode)
    (hoperands : t.operands = t'.operands) : t = t' := by
  apply Option.some.inj
  rw [← ofList?_operands t, ← ofList?_operands t', hmode, hoperands]

/-- A task has as many operands as its mode takes. -/
theorem length_operands (t : Task α) : t.operands.length = t.mode.arity := by
  cases t <;> rfl

/-- The task with `f` applied to its operands, from left to right. -/
def mapM {m : Type → Type} [Monad m] (f : α → m β) : Task α → m (Task β)
  | xgcd a b => do return xgcd (← f a) (← f b)
  | gcd a b => do return gcd (← f a) (← f b)
  | lcm a b => do return lcm (← f a) (← f b)
  | diophantine a b c => do return diophantine (← f a) (← f b) (← f c)
  | congruence a b m => do return congruence (← f a) (← f b) (← f m)
  | inverse n m => do return inverse (← f n) (← f m)
  | power x n m => do return power (← f x) (← f n) (← f m)
  | topBit n => do return topBit (← f n)
  | audit a b m => do return audit (← f a) (← f b) (← f m)
  | scenarios => return scenarios

/-- The operands of a task are mapped as their list is. -/
theorem ofList?_mapM {m : Type → Type} [Monad m] [LawfulMonad m] (f : α → m β) (t : Task α) :
    some <$> t.mapM f = ofList? t.mode <$> t.operands.mapM f := by
  cases t <;> simp [mapM, operands, ofList?, mode]

end Task

end Aliquot.CommandLine
