import Aliquot.CheckedInt.Instances
import Mathlib.Data.List.Forall2

/-!
# Simulation of unbounded by bounded arithmetic

A bounded run follows an unbounded one when it overflows, stops for the same cause, or ends with a
result that stands for the unbounded one. Each operation of `CheckedInt` follows the operation on
integers, and the relation composes along sequencing and traversal.
-/

namespace Aliquot

open CheckedInt

/-- The outcome of a bounded run beside that of an unbounded one. -/
inductive Follows {ε β γ : Type} (leaves : ε → Prop) (R : β → γ → Prop) :
    Except ε β → Except ε γ → Prop where
  /-- The bounded run leaves its range. -/
  | overflow {e : ε} {n : Except ε γ} (h : leaves e) : Follows leaves R (.error e) n
  /-- Both runs stop for the same cause. -/
  | failure (e : ε) : Follows leaves R (.error e) (.error e)
  /-- Both runs end with related results. -/
  | value {x : β} {k : γ} (h : R x k) : Follows leaves R (.ok x) (.ok k)

namespace Follows

variable {ε β γ δ ζ : Type} {leaves : ε → Prop} {R : β → γ → Prop} {S : δ → ζ → Prop}
  {m : Except ε β} {n : Except ε γ}

/-- Runs that follow each other go on as their continuations do. -/
theorem bind {k : β → Except ε δ} {l : γ → Except ε ζ} (h : Follows leaves R m n)
    (hk : ∀ x y, m = .ok x → R x y → Follows leaves S (k x) (l y)) :
    Follows leaves S (m >>= k) (n >>= l) := by
  cases h with
  | overflow he => exact .overflow he
  | failure e => exact .failure e
  | value hxy => exact hk _ _ rfl hxy

/-- Related results stay related under functions that respect the relation. -/
theorem map {f : β → δ} {g : γ → ζ} (h : Follows leaves R m n)
    (hf : ∀ x y, R x y → S (f x) (g y)) : Follows leaves S (f <$> m) (g <$> n) := by
  cases h with
  | overflow he => exact .overflow he
  | failure e => exact .failure e
  | value hxy => exact .value (hf _ _ hxy)

/-- Renaming the causes respects the relation when overflows stay overflows. -/
theorem mapError {η : Type} {leaves' : η → Prop} {f : ε → η} (h : Follows leaves R m n)
    (hf : ∀ e, leaves e → leaves' (f e)) : Follows leaves' R (m.mapError f) (n.mapError f) := by
  cases h with
  | overflow he => exact .overflow (hf _ he)
  | failure e => exact .failure (f e)
  | value hxy => exact .value hxy

/-- A traversal of one list follows another when its elements do. -/
theorem mapM {ι : Type} {k : ι → Except ε β} {l : ι → Except ε γ} (xs : List ι)
    (h : ∀ i ∈ xs, Follows leaves R (k i) (l i)) :
    Follows leaves (List.Forall₂ R) (xs.mapM k) (xs.mapM l) := by
  induction xs with
  | nil =>
    rw [List.mapM_nil, List.mapM_nil]
    exact .value .nil
  | cons i xs ih =>
    rw [List.mapM_cons, List.mapM_cons]
    apply (h i List.mem_cons_self).bind
    intro x y _ hxy
    apply (ih fun j hj ↦ h j (List.mem_cons_of_mem i hj)).bind
    intro us vs _ hus
    exact .value (.cons hxy hus)

/-- Every run follows itself. -/
theorem refl (m : Except ε β) : Follows leaves Eq m m := by
  cases m with
  | error e => exact .failure e
  | ok x => exact .value rfl

/-- A run that ends with a result follows one that ends with a related result. -/
theorem exists_of_ok {x : β} (h : Follows leaves R (.ok x) n) : ∃ k, n = .ok k ∧ R x k := by
  cases h with
  | value hxy => exact ⟨_, rfl, hxy⟩

/-- A run that follows one with a result ends with a related result or overflows. -/
theorem ok_or_overflow {k : γ} (h : Follows leaves R m (.ok k)) :
    (∃ x, m = .ok x ∧ R x k) ∨ ∃ e, m = .error e ∧ leaves e := by
  cases h with
  | overflow he => exact .inr ⟨_, rfl, he⟩
  | value hxy => exact .inl ⟨_, rfl, hxy⟩

/-- Without an overflow and with equal results the outcomes are equal. -/
theorem eq_or_overflow {m n : Except ε β} (h : Follows leaves Eq m n) :
    m = n ∨ ∃ e, m = .error e ∧ leaves e := by
  cases h with
  | overflow he => exact .inr ⟨_, rfl, he⟩
  | failure e => exact .inl rfl
  | value hxy => exact .inl (congrArg Except.ok hxy)

end Follows

/-- `Follows` for runs of checked arithmetic. -/
abbrev Simulates {β γ : Type} (R : β → γ → Prop) (m : Checked β) (n : Checked γ) : Prop :=
  Follows Failure.IsOverflow R m n

/-- A bounded run that stops without an overflow stops for the cause of the unbounded one. -/
theorem Follows.exists_error_of_failsWith {β γ : Type} {R : β → γ → Prop} {m : Checked β}
    {n : Checked γ} {c : Category} (h : Simulates R m n) (hf : FailsWith m c) (hc : c ≠ .overflow) :
    ∃ e, m = .error e ∧ n = .error e ∧ e.category? = some c := by
  obtain ⟨e, rfl, he⟩ := hf
  cases h with
  | overflow hover => exact absurd (Option.some.inj (he.symm.trans hover)) hc
  | failure _ => exact ⟨e, rfl, rfl, he⟩

variable {α : Type} [CheckedInt α]

/-- A value stands for an integer. -/
def Reads (x : α) (k : Int) : Prop := toInt x = k

namespace Reads

variable {x y : α} {j k : Int}

/-- Zero stands for zero. -/
theorem zero : Reads (zero : α) (CheckedInt.zero : Int) := toInt_zero

/-- One stands for one. -/
theorem one : Reads (one : α) (CheckedInt.one : Int) := toInt_one

/-- The integer of a value under a test for zero. -/
theorem isZero_eq (h : Reads x k) : isZero x = isZero k := by
  rw [Bool.eq_iff_iff, isZero_iff, isZero_iff, h]
  rfl

/-- The integer of a value under a test for negative values. -/
theorem isNeg_eq (h : Reads x k) : isNeg x = isNeg k := by
  rw [Bool.eq_iff_iff, isNeg_iff, isNeg_iff, h]
  rfl

/-- The integers of two values under the strict order. -/
theorem lt_eq (hx : Reads x j) (hy : Reads y k) : lt x y = lt j k := by
  rw [Bool.eq_iff_iff, lt_iff, lt_iff, hx, hy]
  rfl

/-- The integers of two values under the weak order. -/
theorem le_eq (hx : Reads x j) (hy : Reads y k) : le x y = le j k := by
  rw [Bool.eq_iff_iff, le_iff, le_iff, hx, hy]
  rfl

/-- A conversion yields the integer or overflows. -/
theorem ofInt (k : Int) : Simulates Reads (ofInt k : Checked α) (.ok k) := by
  cases h : (CheckedInt.ofInt k : Checked α) with
  | error e => exact .overflow (isOverflow_of_ofInt_eq_error h)
  | ok x => exact .value (toInt_of_ofInt_eq_ok h)

/-- A sum follows the sum of the integers. -/
theorem add (hx : Reads x j) (hy : Reads y k) :
    Simulates Reads (add x y) (CheckedInt.add j k) := by
  rw [add_eq, hx, hy]
  exact ofInt (j + k)

/-- A difference follows the difference of the integers. -/
theorem sub (hx : Reads x j) (hy : Reads y k) :
    Simulates Reads (sub x y) (CheckedInt.sub j k) := by
  rw [sub_eq, hx, hy]
  exact ofInt (j - k)

/-- A product follows the product of the integers. -/
theorem mul (hx : Reads x j) (hy : Reads y k) :
    Simulates Reads (mul x y) (CheckedInt.mul j k) := by
  rw [mul_eq, hx, hy]
  exact ofInt (j * k)

/-- A negated value follows the negated integer. -/
theorem neg (hx : Reads x j) : Simulates Reads (neg x) (CheckedInt.neg j) := by
  rw [neg_eq, hx]
  exact ofInt (-j)

/-- An absolute value follows that of the integer. -/
theorem abs (hx : Reads x j) : Simulates Reads (abs x) (CheckedInt.abs j) := by
  rw [CheckedInt.abs_eq, hx]
  exact ofInt j.natAbs

/-- A quotient follows that of the integers, by zero too. -/
theorem quo (hx : Reads x j) (hy : Reads y k) :
    Simulates Reads (quo x y) (CheckedInt.quo j k) := by
  rw [quo_eq, quo_eq, hx, hy]
  change Simulates Reads _ (if k = 0 then _ else _)
  split
  · exact .failure _
  · exact ofInt (j.tdiv k)

/-- A remainder follows that of the integers, by zero too. -/
theorem rem (hx : Reads x j) (hy : Reads y k) :
    Simulates Reads (rem x y) (CheckedInt.rem j k) := by
  rw [rem_eq, rem_eq, hx, hy]
  change Simulates Reads _ (if k = 0 then _ else _)
  split
  · exact .failure _
  · exact ofInt (j.tmod k)

/-- The optional product is nothing or stands for the product of the integers. -/
theorem mul? (hx : Reads x j) (hy : Reads y k) :
    mul? x y = none ∨ ∃ z : α, mul? x y = some z ∧ Reads z (j * k) := by
  rw [mul?_eq, mul_eq, hx, hy]
  cases h : (CheckedInt.ofInt (j * k) : Checked α) with
  | error e => exact .inl rfl
  | ok z => exact .inr ⟨z, rfl, toInt_of_ofInt_eq_ok h⟩

end Reads

end Aliquot
