import Aliquot.Proofs.Range
import Aliquot.Proofs.Report

/-!
# Failures of bounded types can be written

An integer that a bounded type does not hold overflows on its way there, and the overflow names it
or its magnitude. The integers of a bounded type have 128 binary digits at most and the results of
operations on them 256, far from the length that is not written, so whatever fails in such a type is
reported under its own class.
-/

namespace Aliquot

open CheckedInt

section Runs

variable {β γ : Type} {m : Checked β} {c : Category}

/-- Every failure of the run has a text that can be written. -/
structure WritesFailures (m : Checked β) : Prop where
  mentionsLong : ∀ {e}, m = .error e → e.mentionsLong = false

/-- A run with a result has no failure. -/
theorem writesFailures_ok (x : β) : WritesFailures (.ok x) := ⟨nofun⟩

/-- A failure can be written when its text mentions no integer that is too long. -/
theorem writesFailures_error {e : Failure} (h : e.mentionsLong = false) :
    WritesFailures (.error e : Checked β) := by
  refine ⟨fun he ↦ ?_⟩
  cases he
  exact h

namespace WritesFailures

/-- The failures of a longer computation are those of its parts. -/
theorem bind {f : β → Checked γ} (h : WritesFailures m)
    (hf : ∀ x, m = .ok x → WritesFailures (f x)) : WritesFailures (m >>= f) := by
  cases m with
  | error e => exact writesFailures_error (h.mentionsLong rfl)
  | ok x => exact hf x rfl

/-- What is made of a result does not change the failures. -/
theorem map {f : β → γ} (h : WritesFailures m) : WritesFailures (f <$> m) := by
  cases m with
  | error e => exact writesFailures_error (h.mentionsLong rfl)
  | ok x => exact writesFailures_ok (f x)

/-- The failures of a traversal are those at its elements. -/
theorem mapM {ι : Type} {f : ι → Checked β} {is : List ι} (h : ∀ i ∈ is, WritesFailures (f i)) :
    WritesFailures (is.mapM f) := by
  induction is with
  | nil =>
    rw [List.mapM_nil]
    exact writesFailures_ok []
  | cons i is ih =>
    obtain ⟨hi, his⟩ := List.forall_mem_cons.mp h
    rw [List.mapM_cons]
    apply hi.bind
    intro x _
    apply (ih his).bind
    intro xs _
    exact writesFailures_ok (x :: xs)

/-- A failure of the run mentions no integer that is too long. -/
theorem failsFor (h : WritesFailures m) (hf : FailsWith m c) : FailsFor m c false := by
  obtain ⟨e, rfl, hc⟩ := hf
  exact ⟨e, rfl, hc, h.mentionsLong rfl⟩

/-- So it is reported under its own class. -/
theorem reports (h : WritesFailures m) (hf : FailsWith m c) : Reports m (.failure c) :=
  (h.failsFor hf).reports

end WritesFailures

end Runs

/-- The values of the type have no more than 128 binary digits, and an overflow that names an
integer of no more than 256 can be written. -/
structure HasShortIntegers (α : Type) [CheckedInt α] : Prop where
  natAbs_le : ∀ x : α, (toInt x).natAbs ≤ twoPow 128
  ofInt : ∀ {k : Int}, k.natAbs ≤ twoPow 256 → WritesFailures (ofInt k : Checked α)

namespace HasShortIntegers

variable {α : Type} [CheckedInt α] (hα : HasShortIntegers α)
include hα

/-- The integer of a value is written. -/
theorem isLong_eq_false (x : α) : Text.isLong (toInt x) = false :=
  Text.isLong_eq_false_of_natAbs_le
    (Nat.le_trans (hα.natAbs_le x) (twoPow_le_twoPow (by decide)))

/-- A conversion of what is no further from zero than twice the integers of the type. -/
theorem ofInt_of_le {k : Int} (h : k.natAbs ≤ 2 * twoPow 128) :
    WritesFailures (CheckedInt.ofInt k : Checked α) := by
  apply hα.ofInt
  rw [← twoPow_succ] at h
  exact Nat.le_trans h (twoPow_le_twoPow (by decide))

/-- A sum. -/
theorem add (x y : α) : WritesFailures (add x y) := by
  have hx := hα.natAbs_le x
  have hy := hα.natAbs_le y
  rw [add_eq]
  exact hα.ofInt_of_le (by omega)

/-- A difference. -/
theorem sub (x y : α) : WritesFailures (sub x y) := by
  have hx := hα.natAbs_le x
  have hy := hα.natAbs_le y
  rw [sub_eq]
  exact hα.ofInt_of_le (by omega)

/-- A product. -/
theorem mul (x y : α) : WritesFailures (mul x y) := by
  rw [mul_eq]
  apply hα.ofInt
  rw [Int.natAbs_mul, show 256 = 128 + 128 from rfl, twoPow_add]
  exact Nat.mul_le_mul (hα.natAbs_le x) (hα.natAbs_le y)

/-- A negated value. -/
theorem neg (x : α) : WritesFailures (neg x) := by
  have hx := hα.natAbs_le x
  rw [neg_eq]
  exact hα.ofInt_of_le (by omega)

/-- An absolute value. -/
theorem abs (x : α) : WritesFailures (abs x) := by
  have hx := hα.natAbs_le x
  rw [CheckedInt.abs_eq]
  exact hα.ofInt_of_le (by omega)

/-- A quotient. -/
theorem quo (x y : α) : WritesFailures (quo x y) := by
  have hx := hα.natAbs_le x
  rw [quo_eq]
  split
  · exact writesFailures_error rfl
  · apply hα.ofInt_of_le
    rw [Int.natAbs_tdiv]
    exact Nat.le_trans (Nat.div_le_self ..) (by omega)

/-- A remainder. -/
theorem rem (x y : α) : WritesFailures (rem x y) := by
  have hx := hα.natAbs_le x
  rw [rem_eq]
  split
  · exact writesFailures_error rfl
  · apply hα.ofInt_of_le
    rw [Int.natAbs_tmod]
    exact Nat.le_trans (Nat.mod_le ..) (by omega)

/-- The product of two values that does not fit can be named. -/
theorem productOutOfRange (x y : α) (typeName : String) :
    (Failure.productOutOfRange (toInt x) (toInt y) typeName).mentionsLong = false := by
  simp [Failure.mentionsLong, Failure.integers, hα.isLong_eq_false]

end HasShortIntegers

namespace Rep

variable {r : Rep} {k : Int}

/-- An integer that is not represented overflows, and the overflow names it or its magnitude. -/
theorem exists_ofInt_eq_outOfRange (h : ¬r.Represents k) :
    ∃ (j : Int) (typeName : String),
      (ofInt k : Checked r.Carrier) = .error (.outOfRange j typeName) ∧ j.natAbs = k.natAbs := by
  cases r with
  | unbounded => exact absurd trivial h
  | fixed f => exact ⟨k, f.typeName, Fixed.ofInt_of_not_represents h, rfl⟩
  | signMagnitude w =>
    have hm : ¬(Format.unsigned w).Represents k.natAbs := fun hm ↦ h hm.2
    refine ⟨k.natAbs, (Format.unsigned w).typeName, ?_, rfl⟩
    change SignMagnitude.ofMagnitude w k.natAbs (decide (k < 0)) = _
    rw [SignMagnitude.ofMagnitude, Fixed.ofInt_of_not_represents hm]
    rfl

/-- So the conversion stops under the class for that integer. -/
theorem stopsAs_of_not_represents (h : ¬r.Represents k) {β : Type} (f : r.Carrier → β) :
    StopsAs ((f <$> (ofInt k : Checked r.Carrier)).mapError .failure) (Fault.overflowKind k) := by
  obtain ⟨j, typeName, hofInt, hj⟩ := exists_ofInt_eq_outOfRange h
  rw [hofInt, ← Fault.overflowKind_congr hj, ← Fault.kind_reported_outOfRange j typeName]
  exact ⟨_, rfl, rfl⟩

/-- A bounded type holds no integer of more than 128 binary digits. -/
theorem natAbs_le_of_represents (hb : r ≠ .unbounded) (h : r.Represents k) :
    k.natAbs ≤ twoPow 128 := by
  have hfixed {f : Format} {j : Int} (hj : f.Represents j) : j.natAbs ≤ twoPow 128 := by
    have := Format.natAbs_lt_twoPow_bits hj
    have := twoPow_le_twoPow f.bits_le
    omega
  cases r with
  | unbounded => exact absurd rfl hb
  | fixed f => exact hfixed h
  | signMagnitude w =>
    have hm : (Format.unsigned w).Represents k.natAbs := ⟨Int.natCast_nonneg _, h⟩
    rw [← Int.natAbs_natCast k.natAbs]
    exact hfixed hm

/-- So all its integers are written. -/
theorem isLong_eq_false_of_represents (hb : r ≠ .unbounded) (h : r.Represents k) :
    Text.isLong k = false :=
  Text.isLong_eq_false_of_natAbs_le
    (Nat.le_trans (natAbs_le_of_represents hb h) (twoPow_le_twoPow (by decide)))

/-- An integer that is too long to be written is not represented. -/
theorem not_represents_of_isLong (hb : r ≠ .unbounded) (h : Text.isLong k = true) :
    ¬r.Represents k := by
  intro hrep
  rw [isLong_eq_false_of_represents hb hrep] at h
  cases h

/-- The integers of a bounded type are short. -/
theorem hasShortIntegers (hb : r ≠ .unbounded) : HasShortIntegers r.Carrier where
  natAbs_le x := natAbs_le_of_represents hb (represents_toInt x)
  ofInt {k} hk := by
    by_cases h : r.Represents k
    · obtain ⟨x, hx⟩ := exists_ofInt_of_represents h
      rw [hx]
      exact writesFailures_ok x
    · obtain ⟨j, typeName, hj, habs⟩ := exists_ofInt_eq_outOfRange h
      have hlong : Text.isLong j = false := Text.isLong_eq_false_of_natAbs_le (habs ▸ hk)
      rw [hj]
      apply writesFailures_error
      rw [Failure.mentionsLong, Failure.integers, List.any_cons, hlong]
      rfl

end Rep

end Aliquot
