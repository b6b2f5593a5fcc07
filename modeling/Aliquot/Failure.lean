/-!
# Failures of checked arithmetic

A `Failure` names the cause of a computation that has no answer and carries the integers that its
text mentions. Every cause but division by zero falls into one `Category`; `Checked α` is the result
of a computation that yields an `α` or fails.

Source: `bezout.errors`, and the texts that the other modules give to its errors.
-/

namespace Aliquot

/-- The reportable classes of failure. -/
inductive Category where
  /-- A result or a count left the representable range. -/
  | overflow
  /-- The equation has no integer solution. -/
  | noSolution
  /-- An argument violates a precondition. -/
  | badArgument
  deriving DecidableEq, Repr

namespace Category

/-- The word that stands for a category in reports. -/
def tag : Category → String
  | overflow => "overflow"
  | noSolution => "no_solution"
  | badArgument => "bad_argument"

/-- Distinct categories have distinct tags. -/
theorem tag_inj {c d : Category} : c.tag = d.tag ↔ c = d := by
  cases c <;> cases d <;> decide

end Category

/-- The causes for which a computation on checked integers stops. -/
inductive Failure where
  /-- `value` is not representable in the type called `typeName`. -/
  | outOfRange (value : Int) (typeName : String)
  /-- `value` exceeds what can be counted with 32 bits. -/
  | countTooLarge (value : Int)
  /-- The product of two values of the type called `typeName` is not representable in it. -/
  | productOutOfRange (left right : Int) (typeName : String)
  /-- No pair satisfies `0*x + 0*y = constant`. -/
  | noPair (constant : Int)
  /-- `constant` is no multiple of `divisor`, the greatest common divisor of `a` and `b`. -/
  | notMultiple (constant a b divisor : Int)
  /-- Every pair satisfies `0*x + 0*y = 0`, so there is no family to describe. -/
  | everyPair
  /-- Two zeros have no least positive common multiple. -/
  | lcmOfZeros
  /-- A congruence was asked for modulo zero or a negative number. -/
  | modulusNotPositive (modulus : Int)
  /-- A power was asked for with a negative exponent. -/
  | negativeExponent (exponent : Int)
  /-- A quotient or remainder by zero was asked for. -/
  | divisionByZero
  deriving DecidableEq, Repr

namespace Failure

/-- The class of a failure; division by zero belongs to none. -/
def category? : Failure → Option Category
  | outOfRange .. | countTooLarge .. | productOutOfRange .. => some .overflow
  | noPair .. | notMultiple .. => some .noSolution
  | everyPair | lcmOfZeros | modulusNotPositive .. | negativeExponent .. => some .badArgument
  | divisionByZero => none

/-- The text of a failure. -/
def message : Failure → String
  | outOfRange value typeName => s!"{value} does not fit in {typeName}"
  | countTooLarge value => s!"{value} does not narrow to a 32-bit count"
  | productOutOfRange left right typeName => s!"{left} * {right} overflows {typeName}"
  | noPair constant => s!"0*x + 0*y = {constant} has no solution"
  | notMultiple constant a b divisor =>
    s!"{constant} is not a multiple of gcd({a}, {b}) = {divisor}"
  | everyPair => "a and b are both zero; every pair solves 0*x + 0*y = 0"
  | lcmOfZeros => "lcm(0, 0) is undefined"
  | modulusNotPositive modulus => s!"modulus must be positive, got {modulus}"
  | negativeExponent exponent => s!"negative exponent {exponent}"
  | divisionByZero => "integer division by zero"

/-- The integers that the text of a failure mentions. -/
def integers : Failure → List Int
  | outOfRange value _ | countTooLarge value => [value]
  | productOutOfRange left right _ => [left, right]
  | noPair constant => [constant]
  | notMultiple constant a b divisor => [constant, a, b, divisor]
  | modulusNotPositive modulus => [modulus]
  | negativeExponent exponent => [exponent]
  | everyPair | lcmOfZeros | divisionByZero => []

/-- The failure is an overflow. -/
def IsOverflow (e : Failure) : Prop := e.category? = some .overflow

instance (e : Failure) : Decidable e.IsOverflow := inferInstanceAs (Decidable (_ = _))

/-- Division by zero is the only failure without a category. -/
theorem category?_eq_none_iff {e : Failure} : e.category? = none ↔ e = .divisionByZero := by
  cases e <;> simp [category?]

end Failure

/-- The result of a computation that may fail. -/
abbrev Checked (α : Type) := Except Failure α

/-- A computation in two parts that ends with a result has one from each part. -/
theorem exists_of_bind_eq_ok {ε α β : Type} {m : Except ε α} {f : α → Except ε β} {y : β}
    (h : m >>= f = .ok y) : ∃ x, m = .ok x ∧ f x = .ok y := by
  cases m with
  | error e => cases h
  | ok x => exact ⟨x, rfl, h⟩

/-- What is made of a result is made of some result. -/
theorem exists_of_map_eq_ok {ε α β : Type} {m : Except ε α} {f : α → β} {y : β}
    (h : f <$> m = .ok y) : ∃ x, m = .ok x ∧ f x = y := by
  cases m with
  | error e => cases h
  | ok x => exact ⟨x, rfl, Except.ok.inj h⟩

/-- The computation ends with a failure of the class `c`. -/
def FailsWith {α : Type} (m : Checked α) (c : Category) : Prop :=
  ∃ e, m = .error e ∧ e.category? = some c

/-- The class of a failure is that of its cause. -/
theorem failsWith_error {α : Type} {e : Failure} {c : Category} :
    FailsWith (.error e : Checked α) c ↔ e.category? = some c := by
  constructor
  · rintro ⟨e', he, hc⟩
    rw [Except.error.inj he, hc]
  · intro hc
    exact ⟨e, rfl, hc⟩

/-- A failure has one class only. -/
theorem FailsWith.iff_eq {α : Type} {m : Checked α} {c d : Category} (hc : FailsWith m c) :
    FailsWith m d ↔ c = d := by
  obtain ⟨e, rfl, he⟩ := hc
  rw [failsWith_error, he, Option.some.injEq]

/-- A failure ends a longer computation too. -/
theorem FailsWith.bind {α β : Type} {m : Checked α} {c : Category} (h : FailsWith m c)
    (f : α → Checked β) : FailsWith (m >>= f) c := by
  obtain ⟨e, rfl, he⟩ := h
  exact ⟨e, rfl, he⟩

/-- What is made of a result does not change the failures. -/
theorem failsWith_map {α β : Type} {m : Checked α} {f : α → β} {c : Category} :
    FailsWith (f <$> m) c ↔ FailsWith m c := by
  cases m with
  | error e => exact failsWith_error.trans failsWith_error.symm
  | ok x =>
    constructor
    · rintro ⟨e, he, -⟩
      cases he
    · rintro ⟨e, he, -⟩
      cases he

/-- A computation with a result does not fail. -/
theorem not_failsWith_ok {α : Type} {x : α} {c : Category} : ¬FailsWith (.ok x) c := by
  rintro ⟨e, he, -⟩
  cases he

/-- The text of a report of some category: the text given, or the tag of the category where the text
is missing or empty. A report outside every category needs a text of its own. -/
def reportText? (category? : Option Category) (text? : Option String) : Option String :=
  match text?.filter (· ≠ "") with
  | some text => some text
  | none => category?.map Category.tag

end Aliquot
