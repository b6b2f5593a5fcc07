import Aliquot.Fault

/-!
# Faults as they are reported

The text of a failure mentions the integers it is about. An integer with more digits than are
written has no text, so a failure that mentions one is reported as the fault to write it, and not
under its own class. What a call reports is therefore a matter of the class of its failure and of
the length of these integers.
-/

namespace Aliquot

open Text (isLong)

section Stops

variable {β : Type}

/-- The call stops with a fault that is reported under the class `kind`. -/
def StopsAs (answer : Answer β) (kind : FaultKind) : Prop :=
  ∃ e, answer = .error e ∧ e.reported.kind = kind

/-- A call that stops is reported under one class. -/
theorem stopsAs_error {e : Fault} {kind : FaultKind} :
    StopsAs (.error e : Answer β) kind ↔ e.reported.kind = kind := by
  constructor
  · rintro ⟨_, he, hkind⟩
    cases he
    exact hkind
  · exact fun hkind ↦ ⟨e, rfl, hkind⟩

/-- A call that ends with a value does not stop. -/
theorem not_stopsAs_ok {x : β} {kind : FaultKind} : ¬StopsAs (.ok x) kind := by
  rintro ⟨e, he, -⟩
  cases he

/-- A call stops under one class only. -/
theorem StopsAs.kind_eq {answer : Answer β} {c d : FaultKind} (hc : StopsAs answer c)
    (hd : StopsAs answer d) : c = d := by
  obtain ⟨e, rfl, rfl⟩ := hc
  exact stopsAs_error.mp hd

end Stops

/-- The text of the failure mentions an integer that is too long to be written. -/
def Failure.mentionsLong (e : Failure) : Bool := e.integers.any isLong

/-- The class under which a failure of the class `c` is reported; `long` says whether its text
mentions an integer that is too long to be written. -/
def Category.reportKind (c : Category) (long : Bool) : FaultKind :=
  if long then .value else .failure c

namespace Category

variable {c d : Category} {long : Bool}

/-- A failure is reported under its own class when its text can be written. -/
theorem failure_eq_reportKind_iff : .failure d = c.reportKind long ↔ d = c ∧ long = false := by
  unfold reportKind
  cases long <;> simp

/-- It is reported as one to write its text when that cannot be written. -/
theorem value_eq_reportKind_iff : .value = c.reportKind long ↔ long = true := by
  unfold reportKind
  cases long <;> simp

end Category

/-- A failure is reported under its class or as the fault to write its text. -/
theorem Fault.kind_reported_failure {e : Failure} {c : Category} (h : e.category? = some c) :
    (failure e).reported.kind = c.reportKind e.mentionsLong := by
  change (if e.mentionsLong then tooLongToWrite Text.digitLimit else failure e).kind = _
  rw [Category.reportKind]
  split
  · rfl
  · simp only [kind, h]

section Runs

variable {β γ : Type} {m : Checked β} {c : Category} {long : Bool} {kind : FaultKind}

/-- The run, called on arbitrary operands, stops with a failure that is reported under the class
`kind`. -/
def Reports (m : Checked β) (kind : FaultKind) : Prop := StopsAs (m.mapError .failure) kind

/-- A run with a result reports nothing. -/
theorem not_reports_ok {x : β} : ¬Reports (.ok x) kind := not_stopsAs_ok

/-- The run fails for a cause of the class `c`; `long` says whether its text mentions an integer
that is too long to be written. -/
def FailsFor (m : Checked β) (c : Category) (long : Bool) : Prop :=
  ∃ e, m = .error e ∧ e.category? = some c ∧ e.mentionsLong = long

/-- A failure is for its cause. -/
theorem failsFor_error {e : Failure} (h : e.category? = some c) :
    FailsFor (.error e : Checked β) c e.mentionsLong := ⟨e, rfl, h, rfl⟩

namespace FailsFor

/-- It is a failure of the class. -/
theorem failsWith (h : FailsFor m c long) : FailsWith m c := by
  obtain ⟨e, he, hc, -⟩ := h
  exact ⟨e, he, hc⟩

/-- A failure ends a longer computation too. -/
theorem bind (h : FailsFor m c long) (f : β → Checked γ) : FailsFor (m >>= f) c long := by
  obtain ⟨e, rfl, he⟩ := h
  exact ⟨e, rfl, he⟩

/-- What is made of a result does not change a failure. -/
theorem map (h : FailsFor m c long) (f : β → γ) : FailsFor (f <$> m) c long := by
  obtain ⟨e, rfl, he⟩ := h
  exact ⟨e, rfl, he⟩

/-- What would be made of a result does not change it either. -/
theorem of_map {f : β → γ} (h : FailsFor (f <$> m) c long) : FailsFor m c long := by
  obtain ⟨e, he, h⟩ := h
  cases m with
  | ok x => cases he
  | error =>
    cases he
    exact ⟨e, rfl, h⟩

/-- A failure is reported under the one class for its cause. -/
theorem reports_iff (h : FailsFor m c long) : Reports m kind ↔ kind = c.reportKind long := by
  obtain ⟨e, rfl, hc, rfl⟩ := h
  rw [← Fault.kind_reported_failure hc, eq_comm]
  exact stopsAs_error

/-- It is reported under this class. -/
theorem reports (h : FailsFor m c long) : Reports m (c.reportKind long) := h.reports_iff.mpr rfl

end FailsFor

end Runs

/-- The call stops with a failure that has no text, as it mentions an integer that is too long to be
written. -/
def IsUnwritable {β : Type} (answer : Answer β) : Prop :=
  ∃ e, answer = .error (.failure e) ∧ e.mentionsLong = true

/-- It is reported as the fault to write the text. -/
theorem IsUnwritable.stopsAs {β : Type} {answer : Answer β} (h : IsUnwritable answer) :
    StopsAs answer .value := by
  obtain ⟨e, rfl, hlong⟩ := h
  refine stopsAs_error.mpr ?_
  change (if e.mentionsLong then Fault.tooLongToWrite Text.digitLimit else .failure e).kind = _
  rw [hlong]
  rfl

/-- It ends a longer computation too. -/
theorem IsUnwritable.bind {β γ : Type} {answer : Answer β} (h : IsUnwritable answer)
    (f : β → Answer γ) : IsUnwritable (answer >>= f) := by
  obtain ⟨e, rfl, hlong⟩ := h
  exact ⟨e, rfl, hlong⟩

/-- The class under which an overflow is reported that names `k`. -/
def Fault.overflowKind (k : Int) : FaultKind :=
  if isLong k then .value else .failure .overflow

/-- An overflow is reported under the class for the integer it names. -/
theorem Fault.kind_reported_outOfRange (k : Int) (typeName : String) :
    (Fault.failure (.outOfRange k typeName)).reported.kind = overflowKind k := by
  rw [kind_reported_failure (c := .overflow) rfl, Category.reportKind, Failure.mentionsLong,
    Failure.integers, List.any_cons, List.any_nil, Bool.or_false]
  rfl

/-- The sign of the integer does not matter. -/
theorem Fault.overflowKind_congr {j k : Int} (h : j.natAbs = k.natAbs) :
    overflowKind j = overflowKind k := by
  rw [overflowKind, overflowKind, isLong, isLong, h]

namespace Text

variable {j k : Int}

/-- What is no further from zero is no longer. -/
theorem isLong_of_natAbs_le (h : j.natAbs ≤ k.natAbs) (hj : isLong j = true) :
    isLong k = true :=
  decide_eq_true (Nat.le_trans (of_decide_eq_true hj) h)

/-- An integer of no more than 256 binary digits is written. -/
theorem isLong_eq_false_of_natAbs_le (h : k.natAbs ≤ twoPow 256) : isLong k = false := by
  have hgrows {n : Nat} (hn : 256 ≤ n) : twoPow 256 < tenPow n := calc
    2 ^ 256 < 10 ^ 256 := Nat.pow_lt_pow_left (by decide) (by decide)
    _ ≤ 10 ^ n := Nat.pow_le_pow_right (by decide) hn
  exact decide_eq_false (Nat.not_le.mpr (Nat.lt_of_le_of_lt h (hgrows (by decide))))

/-- Zero is written. -/
@[simp] theorem isLong_zero : isLong 0 = false := isLong_eq_false_of_natAbs_le (Nat.zero_le _)

/-- One is written. -/
@[simp] theorem isLong_one : isLong 1 = false := isLong_eq_false_of_natAbs_le (twoPow_pos 256)

/-- The least positive integer with more digits than are written is not. -/
theorem isLong_tenPow : isLong (tenPow digitLimit) = true := by
  rw [isLong, Int.natAbs_natCast]
  exact decide_eq_true (Nat.le_refl _)

/-- Neither is the 43rd power of a number of more than 100 digits. -/
theorem isLong_pow {b : Nat} (h : tenPow 100 ≤ b) : isLong (Nat.pow b 43) = true := by
  have hlimit : tenPow digitLimit = Nat.pow (tenPow 100) 43 := tenPow_mul 100 43
  rw [isLong, Int.natAbs_natCast, hlimit]
  exact decide_eq_true (Nat.pow_le_pow_left h 43)

/-- The sign of an integer does not make it longer. -/
@[simp] theorem isLong_neg (k : Int) : isLong (-k) = isLong k := by
  rw [isLong, isLong, Int.natAbs_neg]

end Text

/-- An overflow that names such an integer is reported as one. -/
theorem Fault.overflowKind_of_natAbs_le {k : Int} (h : k.natAbs ≤ twoPow 256) :
    overflowKind k = .failure .overflow := by
  rw [overflowKind, Text.isLong_eq_false_of_natAbs_le h]
  rfl

end Aliquot
