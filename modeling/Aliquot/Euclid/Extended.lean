import Aliquot.CheckedInt.Basic

/-!
# The extended Euclidean algorithm

Each row of the computation holds a value and two coefficients that combine the two given numbers
to that value. A step divides the current value by the next one, toward zero, and subtracts the
quotient's multiple of the next row from the current row. The run ends when the next value is zero.

Source: `_RotatingTriples` and `extended_gcd` in `bezout.euclidean`.
-/

namespace Aliquot.Euclid

open CheckedInt

/-- A value with the coefficients that combine the given numbers to it. -/
structure Row (α : Type) where
  value : α
  coeff₁ : α
  coeff₂ : α
  deriving DecidableEq, Repr

/-- The rows that a step works with. -/
structure State (α : Type) where
  /-- The row before the current one, all zeros before the first step. -/
  previous : Row α
  /-- The row whose value is divided. -/
  current : Row α
  /-- The row whose value divides. -/
  next : Row α
  deriving DecidableEq, Repr

variable {α : Type} [CheckedInt α]

/-- The row `row` less the `q`-fold of the row `other`. -/
def Row.subMul (row : Row α) (q : α) (other : Row α) : Checked (Row α) := do
  let value ← sub row.value (← mul q other.value)
  let coeff₁ ← sub row.coeff₁ (← mul q other.coeff₁)
  let coeff₂ ← sub row.coeff₂ (← mul q other.coeff₂)
  return { value, coeff₁, coeff₂ }

namespace State

/-- The state before the first step: each given number is combined from itself alone. -/
def start (a b : α) : State α where
  previous := ⟨zero, zero, zero⟩
  current := ⟨a, one, zero⟩
  next := ⟨b, zero, one⟩

/-- The run is over when the next value is zero. -/
def isFinished (s : State α) : Bool := isZero s.next.value

/-- One division step. -/
def step (s : State α) : Checked (State α) := do
  let q ← quo s.current.value s.next.value
  let row ← s.current.subMul q s.next
  return { previous := s.current, current := s.next, next := row }

/-- The value of the row that `subMul` forms. -/
theorem toInt_value_of_subMul_eq_ok {row other t : Row α} {q : α}
    (h : row.subMul q other = .ok t) :
    toInt t.value = toInt row.value - toInt q * toInt other.value := by
  obtain ⟨m, hm, h⟩ := exists_of_bind_eq_ok h
  obtain ⟨v, hv, h⟩ := exists_of_bind_eq_ok h
  obtain ⟨_, -, h⟩ := exists_of_bind_eq_ok h
  obtain ⟨_, -, h⟩ := exists_of_bind_eq_ok h
  obtain ⟨_, -, h⟩ := exists_of_bind_eq_ok h
  obtain ⟨_, -, h⟩ := exists_of_bind_eq_ok h
  cases h
  rw [toInt_of_sub_eq_ok hv, toInt_of_mul_eq_ok hm]

/-- A step leaves the remainder of the current value by the next one. -/
theorem toInt_next_of_step_eq_ok {s t : State α} (h : s.step = .ok t) :
    toInt t.next.value = (toInt s.current.value).tmod (toInt s.next.value) := by
  obtain ⟨q, hq, h⟩ := exists_of_bind_eq_ok h
  obtain ⟨row, hrow, h⟩ := exists_of_bind_eq_ok h
  cases h
  rw [toInt_value_of_subMul_eq_ok hrow, toInt_of_quo_eq_ok hq, Int.tmod_def, Int.mul_comm]

/-- The next value shrinks in every step. -/
theorem natAbs_next_lt_of_step_eq_ok {s t : State α} (hs : ¬s.isFinished = true)
    (h : s.step = .ok t) : (toInt t.next.value).natAbs < (toInt s.next.value).natAbs := by
  rw [toInt_next_of_step_eq_ok h, Int.natAbs_tmod]
  rw [isFinished, isZero_iff] at hs
  exact Nat.mod_lt _ (by omega)

/-- The state in which the steps from `s` end. -/
def run (s : State α) : Checked (State α) :=
  if _hs : s.isFinished then .ok s
  else match _h : s.step with
    | .error e => .error e
    | .ok t => t.run
termination_by (toInt s.next.value).natAbs
decreasing_by exact natAbs_next_lt_of_step_eq_ok _hs _h

/-- A finished state is its own end. -/
theorem run_of_isFinished {s : State α} (h : s.isFinished = true) : s.run = .ok s := by
  rw [run, dif_pos h]

/-- Any other state is left by a step. -/
theorem run_of_not_isFinished {s : State α} (h : ¬s.isFinished = true) :
    s.run = s.step >>= run := by
  rw [run, dif_neg h]
  split
  · next he => rw [he]; rfl
  · next hu => rw [hu]; rfl

end State

/-- A greatest common divisor of two numbers with coefficients that combine them to it. The divisor
has the sign of the last remainder that is not zero. -/
def xgcd (a b : α) : Checked (Row α) := do
  let s ← (State.start a b).run
  return s.current

end Aliquot.Euclid
