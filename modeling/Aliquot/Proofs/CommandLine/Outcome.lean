import Aliquot.Proofs.CommandLine.Run

/-!
# The outcomes of command lines

A command line that is understood ends in one of three ways: with a document, with the message of a
failure, or with the document of an audit that disagrees. Only where a value is missing, which takes
a `--` that does not end the options, a fault ends it instead. The log tells of failures and, when
asked to, of what is run.
-/

namespace Aliquot.CommandLine

variable {ref : References} {i : Invocation}

/-- Nothing that the run would write has an integer that is too long to be written. -/
structure Invocation.WritesAll (ref : References) (i : Invocation) : Prop where
  document : ∀ report, i.run ref = .ok report → report.document.hasLong = false
  message : ∀ e, i.run ref = .error (.failure e) → e.integers.any Text.isLong = false

/-- The lines that stand in the log before any complaint. -/
def Invocation.announced (i : Invocation) (verbosity : Int) : List String :=
  if verbosity ≥ 1 then [i.announcement] else []

/-- The three ways in which a run can end. -/
inductive Invocation.LeavesBehind (ref : References) (i : Invocation) (announced : List String) :
    Outcome → Prop where
  /-- The document is written. -/
  | agreement {report : Report} (hrun : i.run ref = .ok report) (h : report.agrees = true) :
    LeavesBehind ref i announced
      { exit := 0, stdout := report.document.render ++ "\n", record? := i.log announced }
  /-- The conversion or the computation failed. -/
  | failure {e : Failure} (hrun : i.run ref = .error (.failure e)) :
    LeavesBehind ref i announced
      { exit := 1, stderr? := some ("Error: " ++ e.message),
        record? := i.log (announced ++ [i.complaint e]) }
  /-- The document is written and reports a disagreement. -/
  | disagreement {report : Report} (hrun : i.run ref = .ok report) (h : report.agrees = false) :
    LeavesBehind ref i announced
      { exit := 1, stdout := report.document.render ++ "\n", record? := i.log announced }

/-- None of the three is a fault. -/
theorem Invocation.LeavesBehind.fault?_eq_none {announced : List String} {o : Outcome}
    (h : i.LeavesBehind ref announced o) : o.fault? = none := by
  cases h <;> rfl

/-- A report that can be written is written. -/
theorem Invocation.finish_of_ok {report : Report} (hrun : i.run ref = .ok report)
    (h : report.document.hasLong = false) (announced : List String) :
    i.finish ref announced =
      { exit := if report.agrees then 0 else 1, stdout := report.document.render ++ "\n",
        record? := i.log announced } := by
  rw [finish, hrun]
  simp only [bind, Except.bind, Document.writable, h]
  rfl

/-- A failure whose message can be written is told of. -/
theorem Invocation.finish_of_failure {e : Failure} (hrun : i.run ref = .error (.failure e))
    (h : e.integers.any Text.isLong = false) (announced : List String) :
    i.finish ref announced =
      { exit := 1, stderr? := some ("Error: " ++ e.message),
        record? := i.log (announced ++ [i.complaint e]) } := by
  rw [finish, hrun]
  simp only [bind, Except.bind, Except.mapError, Fault.reported, h]
  rfl

/-- A fault of the wrong kind of operand is passed on. -/
theorem Invocation.finish_of_fault {e : Fault} (hrun : i.run ref = .error e)
    (hkind : e.kind = .type) (announced : List String) :
    i.finish ref announced =
      { exit := 1, record? := i.log announced, fault? := some e } := by
  rw [finish, hrun]
  cases e with
  | failure cause => cases cause <;> cases hkind
  | _ => rfl

/-- With its verbosity given an invocation leaves behind what its run does. -/
theorem Invocation.outcome_eq (ref : References) {verbosity : Int}
    (h : i.settings.verbosity? = some verbosity) :
    i.outcome ref = i.finish ref (i.announced verbosity) := by
  rw [outcome, h]
  rfl

/-- An announcement is no complaint, as no name of a mode starts like the word in front of it. -/
theorem Invocation.announcement_ne_complaint (i : Invocation) (e : Failure) :
    i.announcement ≠ i.complaint e := by
  intro h
  have hhead : i.announcement.toList.head? = (i.complaint e).toList.head? := by rw [h]
  have hm : i.announcement.toList.head? = some 'm' := by
    simp [announcement, toString]
  have hname : (i.complaint e).toList.head? ≠ some 'm' := by
    unfold complaint
    cases i.task.mode <;> simp [Mode.name, toString]
  exact hname (hhead ▸ hm)

/-- The ways in which a command line can end that is understood: one of the three, or because
something is missing. -/
inductive Invocation.EndsWith (ref : References) (i : Invocation) : Outcome → Prop where
  | answered {verbosity : Int} {o : Outcome} (hv : i.settings.verbosity? = some verbosity)
    (h : i.LeavesBehind ref (i.announced verbosity) o) : EndsWith ref i o
  /-- The run lacked an operand or the value of an option. -/
  | lacking {verbosity : Int} {e : Fault} (hv : i.settings.verbosity? = some verbosity)
    (hrun : i.run ref = .error e) (hkind : e.kind = .type) (h : i.LacksValue) :
    EndsWith ref i { exit := 1, record? := i.log (i.announced verbosity), fault? := some e }
  /-- Without a verbosity there was no run. -/
  | unstarted (hv : i.settings.verbosity? = none) :
    EndsWith ref i { exit := 1, fault? := some (.noOrder ">=" "list" "int") }

namespace Invocation

/-- What is left behind in one of the three ways is what the run leaves behind. -/
theorem LeavesBehind.eq_finish {announced : List String} {o : Outcome}
    (h : i.LeavesBehind ref announced o) (hw : i.WritesAll ref) :
    o = i.finish ref announced := by
  cases h with
  | agreement hrun ha => rw [finish_of_ok hrun (hw.document _ hrun), ha, if_pos rfl]
  | failure hrun => rw [finish_of_failure hrun (hw.message _ hrun)]
  | disagreement hrun ha =>
    rw [finish_of_ok hrun (hw.document _ hrun), ha, if_neg Bool.false_ne_true]

/-- An invocation decides how it ends. -/
theorem EndsWith.eq_outcome {o : Outcome} (h : i.EndsWith ref o) (hw : i.WritesAll ref) :
    o = i.outcome ref := by
  cases h with
  | answered hv h => rw [outcome_eq ref hv, h.eq_finish hw]
  | lacking hv hrun hkind => rw [outcome_eq ref hv, finish_of_fault hrun hkind]
  | unstarted hv => rw [outcome, hv]

/-- An invocation ends in one of the ways. -/
theorem outcome_endsWith (hr : ref.Sound) (hw : i.WritesAll ref) :
    i.EndsWith ref (i.outcome ref) := by
  cases hv : i.settings.verbosity? with
  | none =>
    rw [outcome, hv]
    exact .unstarted hv
  | some verbosity =>
    rw [outcome_eq ref hv]
    cases hrun : i.run ref with
    | ok report =>
      refine .answered hv ?_
      rw [finish_of_ok hrun (hw.document report hrun)]
      cases ha : report.agrees with
      | true => exact .agreement hrun ha
      | false => exact .disagreement hrun ha
    | error e =>
      obtain ⟨cause, rfl⟩ | ⟨hkind, hlacks⟩ := lacksValue_of_run_eq_error hr hrun
      · rw [finish_of_failure hrun (hw.message _ hrun)]
        exact .answered hv (.failure hrun)
      · rw [finish_of_fault hrun hkind]
        exact .lacking hv hrun hkind hlacks

/-- A fault takes a missing value. -/
theorem EndsWith.lacksValue {o : Outcome} (h : i.EndsWith ref o) (ho : o.fault? ≠ none) :
    i.LacksValue := by
  cases h with
  | answered hv h => exact absurd h.fault?_eq_none ho
  | lacking hv hrun hkind h => exact h
  | unstarted hv => exact .verbosity hv

end Invocation

section Log

variable {verbosity : Int}

/-- What is announced starts with the announcement for a verbosity of at least one. -/
theorem Invocation.head?_announced_append (i : Invocation) (verbosity : Int) (rest : List String)
    (hrest : rest.head? ≠ some i.announcement) :
    (i.announced verbosity ++ rest).head? = some i.announcement ↔ 1 ≤ verbosity := by
  unfold announced
  split
  · next h => simpa using h
  · next h => simpa [hrest] using h

/-- No line that is announced is a complaint. -/
theorem Invocation.complaint_not_mem_announced (e : Failure) :
    i.complaint e ∉ i.announced verbosity := by
  unfold announced
  split
  · rw [List.mem_singleton]
    exact (i.announcement_ne_complaint e).symm
  · exact List.not_mem_nil

/-- The log starts with the announcement just for a verbosity of at least one, and it complains just
when the conversion or the computation failed. -/
structure Invocation.Logs (ref : References) (i : Invocation) (verbosity : Int)
    (lines : List String) : Prop where
  announces_iff : lines.head? = some i.announcement ↔ 1 ≤ verbosity
  complains_iff : (∃ e, i.complaint e ∈ lines) ↔ ∃ e, i.run ref = .error (.failure e)

/-- Without a failure the log only announces. -/
theorem Invocation.announced_logs (h : ¬∃ e, i.run ref = .error (.failure e)) :
    i.Logs ref verbosity (i.announced verbosity) where
  announces_iff := by
    have hhead := i.head?_announced_append verbosity [] nofun
    rwa [List.append_nil] at hhead
  complains_iff := by
    refine iff_of_false ?_ h
    rintro ⟨e, he⟩
    exact complaint_not_mem_announced e he

/-- With a failure it complains behind that. -/
theorem Invocation.announced_append_logs {e : Failure} (h : i.run ref = .error (.failure e)) :
    i.Logs ref verbosity (i.announced verbosity ++ [i.complaint e]) where
  announces_iff := by
    refine i.head?_announced_append _ _ fun hhead ↦ ?_
    exact i.announcement_ne_complaint e (Option.some.inj hhead).symm
  complains_iff :=
    iff_of_true ⟨e, List.mem_append_right _ (List.mem_singleton_self _)⟩ ⟨e, h⟩

/-- In whatever way a command line ends, there is such a log when there is a verbosity. -/
theorem Invocation.EndsWith.logs {o : Outcome} (h : i.EndsWith ref o)
    (hv : i.settings.verbosity? = some verbosity) :
    ∃ lines, o.record? = some (i.log lines) ∧ i.Logs ref verbosity lines := by
  cases h with
  | answered hv' h =>
    cases hv.symm.trans hv'
    cases h with
    | agreement hrun => exact ⟨_, rfl, announced_logs (by simp [hrun])⟩
    | failure hrun => exact ⟨_, rfl, announced_append_logs hrun⟩
    | disagreement hrun => exact ⟨_, rfl, announced_logs (by simp [hrun])⟩
  | lacking hv' hrun hkind =>
    cases hv.symm.trans hv'
    refine ⟨_, rfl, announced_logs ?_⟩
    rintro ⟨cause, hcause⟩
    cases hrun.symm.trans hcause
    cases cause <;> cases hkind
  | unstarted hv' => cases hv.symm.trans hv'

end Log

/-- A command line that is understood, with integers that can all be written, ends in just one of
the ways, and lacks nothing where it has its values. It divides by zero just for a power with a
positive exponent modulo zero whose operands are representable. What it reports is headed by its
mode, and disagrees just when a comparison of an audit does. With a verbosity there is a log, in the
file that is named or on the error stream. It starts with the announcement just for a verbosity of
at least one and complains just of a failure. -/
theorem outcomeWith_ends (hr : ref.Sound) {args : List String} (hp : parse args = .ok i)
    (hw : i.WritesAll ref) :
    i.EndsWith ref (outcomeWith ref args) ∧
    (∀ o, i.EndsWith ref o → o = outcomeWith ref args) ∧
    (HasValues args → (outcomeWith ref args).fault? = none) ∧
    (i.run ref = .error (.failure .divisionByZero) ↔ i.IsPowerModuloZero) ∧
    (∀ report, i.run ref = .ok report → i.Answers ref report) ∧
    ∀ verbosity, i.settings.verbosity? = some verbosity →
      ∃ lines, (outcomeWith ref args).record? = some ⟨i.logTarget, lines⟩ ∧
        i.Logs ref verbosity lines := by
  have heq : outcomeWith ref args = i.outcome ref := by rw [outcomeWith, hp]
  have hends := Invocation.outcome_endsWith hr hw
  rw [heq]
  refine ⟨hends, fun o ho ↦ ho.eq_outcome hw, fun ha ↦ ?_, i.run_dividesByZero_iff hr,
    fun report hrun ↦ Invocation.answers_of_run_eq_ok hr hrun, fun verbosity hv ↦ hends.logs hv⟩
  by_contra hfault
  exact ha.not_lacksValue hp (hends.lacksValue hfault)

/-- In eight bits the third power of two modulo zero ends with the message of a division by zero. -/
theorem outcome_of_power_modulo_zero :
    let args := ["--verbose", "1", "--type", "i8", "power", "2", "3", "0"]
    let i : Invocation := {
      settings := { rep? := some (.fixed (.signed .w8)), verbosity? := some 1 }
      task := .power (some 2) (some 3) (some 0)
      count? := some 1
      start? := some 0 }
    References.textbook.Sound ∧ parse args = .ok i ∧ i.WritesAll .textbook ∧ HasValues args ∧
      i.run .textbook = .error (.failure .divisionByZero) ∧
      outcomeWith .textbook args =
        { exit := 1, stderr? := some "Error: integer division by zero",
          record? := some ⟨.file "bezout_errors.log", ["mode=power type=i8",
            "power failed (division by zero): integer division by zero"]⟩ } := by
  intro args i
  have hp : parse args = .ok i := by decide +kernel
  have hpower : i.IsPowerModuloZero := by
    refine ⟨.fixed (.signed .w8), 2, 3, rfl, rfl, by decide, ?_⟩
    have hrep : ∀ k ∈ [2, 3, 0], Format.Represents (.signed .w8) k := by decide
    exact ⟨hrep 2 (by simp), hrep 3 (by simp), hrep 0 (by simp)⟩
  have hrun := (i.run_dividesByZero_iff References.textbook_sound).mpr hpower
  have hw : i.WritesAll .textbook := by
    constructor
    · intro report h
      cases hrun.symm.trans h
    · intro e h
      cases hrun.symm.trans h
      rfl
  obtain ⟨-, hunique, -⟩ := outcomeWith_ends References.textbook_sound hp hw
  have ha : HasValues args := ⟨by decide, by decide⟩
  refine ⟨References.textbook_sound, hp, hw, ha, hrun, ?_⟩
  rw [← hunique _ (.answered rfl (.failure hrun))]
  decide +kernel

/-- A second `--` takes the place of an operand. Asked for the power zero of two, whatever the
modulus, the run ends with a fault that neither of the two streams tells of. -/
theorem outcome_of_second_dashes :
    let args := ["power", "--", "2", "0", "--"]
    let fault := Fault.notNumeric "list"
    fault.kind = .type ∧ ∃ i, parse args = .ok i ∧
      outcome args =
        { exit := 1, record? := some ⟨.file "bezout_errors.log", []⟩, fault? := some fault } ∧
      ¬i.LeavesBehind .textbook (i.announced 0) (outcome args) := by
  intro args fault
  have hp : parse args = .ok ⟨{}, .power (some 2) (some 0) none, some 1, some 0⟩ := by
    decide +kernel
  have hout : outcome args =
      { exit := 1, record? := some ⟨.file "bezout_errors.log", []⟩, fault? := some fault } := by
    decide +kernel
  refine ⟨rfl, _, hp, hout, fun h ↦ ?_⟩
  have hfault := h.fault?_eq_none
  rw [hout] at hfault
  cases hfault

end Aliquot.CommandLine
