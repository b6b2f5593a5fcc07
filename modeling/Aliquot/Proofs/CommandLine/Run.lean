import Aliquot.CommandLine.Run
import Aliquot.Proofs.Audit.Run
import Aliquot.Proofs.CommandLine.Words
import Aliquot.Proofs.Divisions

/-!
# How runs end

A run ends with a report, with a failure of checked arithmetic or, where the value of an option or
of an operand is missing, with a fault of the wrong kind of operand. Only powers divide by zero, and
only audits report a disagreement.
-/

namespace Aliquot

open CheckedInt

/-- The answer is a result with the property `Q`, a failure of checked arithmetic with the property
`P`, or a fault about a kind of operand, which takes `F`. -/
inductive Ends {β : Type} (F : Prop) (P : Failure → Prop) (Q : β → Prop) : Answer β → Prop where
  | value {x : β} (h : Q x) : Ends F P Q (.ok x)
  | failure {e : Failure} (h : P e) : Ends F P Q (.error (.failure e))
  | fault {e : Fault} (hkind : e.kind = .type) (h : F) : Ends F P Q (.error e)

namespace Ends

variable {β γ : Type} {F : Prop} {P : Failure → Prop} {Q : β → Prop} {R : γ → Prop}

/-- An answer that ends goes on as its continuation does. -/
theorem bind {m : Answer β} {f : β → Answer γ} (h : Ends F P Q m)
    (hf : ∀ x, Q x → Ends F P R (f x)) : Ends F P R (m >>= f) := by
  cases h with
  | value hx => exact hf _ hx
  | failure he => exact .failure he
  | fault hkind h => exact .fault hkind h

/-- What holds of an answer may be weakened. -/
theorem imp {F' : Prop} {P' : Failure → Prop} {Q' : β → Prop} {m : Answer β} (h : Ends F P Q m)
    (hF : F → F') (hP : ∀ e, P e → P' e) (hQ : ∀ x, Q x → Q' x) : Ends F' P' Q' m := by
  cases h with
  | value hx => exact .value (hQ _ hx)
  | failure he => exact .failure (hP _ he)
  | fault hkind h => exact .fault hkind (hF h)

/-- A run of checked arithmetic ends as an answer. -/
theorem lift {m : Checked β} (hP : ∀ e, m = .error e → P e) (hQ : ∀ x, m = .ok x → Q x) :
    Ends F P Q (liftM m : Answer β) := by
  cases m with
  | error e => exact .failure (hP e rfl)
  | ok x => exact .value (hQ x rfl)

/-- A traversal ends when the answer for each element does. -/
theorem mapM {ι : Type} {S : ι → γ → Prop} {f : ι → Answer γ} (is : List ι)
    (h : ∀ i ∈ is, Ends F P (S i) (f i)) : Ends F P (List.Forall₂ S is) (is.mapM f) := by
  induction is with
  | nil => exact .value .nil
  | cons i is ih =>
    rw [List.mapM_cons]
    apply (h i List.mem_cons_self).bind
    intro x hx
    apply (ih fun j hj ↦ h j (List.mem_cons_of_mem i hj)).bind
    intro xs hxs
    exact .value (.cons hx hxs)

end Ends

namespace CommandLine

/-- A power with a positive exponent is asked for modulo zero, with operands that are
representable. -/
def Invocation.IsPowerModuloZero (i : Invocation) : Prop :=
  ∃ r x n, i.settings.rep? = some r ∧ i.task = .power (some x) (some n) (some 0) ∧ 0 < n ∧
    r.Represents x ∧ r.Represents n ∧ r.Represents 0

/-- What a run reports: a document that names the mode, and a disagreement just where an audit has a
comparison that does not agree. -/
structure Invocation.Answers (ref : References) (i : Invocation) (report : Report) : Prop where
  headed : ∃ fields, report.document = .object (("method", .text i.task.mode.name) :: fields)
  agrees_iff : report.agrees = false ↔ ∃ r a b m audit, i.settings.rep? = some r ∧
    i.task = .audit (some a) (some b) (some m) ∧ Audit.run ref r a b m = .ok audit ∧
    report.document = audit.toDocument ∧ ∃ c ∈ audit.checks, c.agrees = false

/-- The operands of an invocation are converted to the representation `r`, which the scenarios do
not ask for. -/
structure Invocation.Converts (i : Invocation) {r : Rep} (u : Task (Operand r.Carrier)) : Prop where
  rep : i.settings.rep? = some r ∨ i.task.mode = .scenarios
  mode : u.mode = i.task.mode
  operands : u.operands.map (fun o ↦ some o.int) = i.task.operands
  reads : ∀ o ∈ u.operands, Reads o.value o.int

/-- An answer to an invocation is what is asked for, a failure that divides by zero only for a power
modulo zero, or a fault because something is missing. -/
abbrev Invocation.EndsAnswering (ref : References) (i : Invocation) : Answer Report → Prop :=
  Ends i.LacksValue (fun e ↦ e = .divisionByZero → i.IsPowerModuloZero) (i.Answers ref)

section Compute

variable {ref : References} {i : Invocation} {r : Rep}

/-- A task other than the scenarios has its operands converted to a representation that is given. -/
theorem Invocation.Converts.rep_eq {u : Task (Operand r.Carrier)} (hu : i.Converts u)
    (hm : u.mode ≠ .scenarios) : i.settings.rep? = some r :=
  hu.rep.resolve_right (hu.mode ▸ hm)

/-- The document of a computation other than an audit reports no disagreement. -/
theorem document_answers {mode : Mode} (hmode : mode = i.task.mode) (hm : mode ≠ .audit)
    (operands : List (String × Int)) (results : List (String × Document)) :
    i.Answers ref (document mode operands results) where
  headed := ⟨_, by rw [← hmode]; rfl⟩
  agrees_iff := by
    refine iff_of_false nofun ?_
    rintro ⟨_, _, _, _, _, -, htask, -⟩
    rw [hmode, htask] at hm
    exact hm rfl

/-- The document of an audit reports the comparisons that do not agree. -/
theorem audit_answers {a b m : Int} {audit : Audit} (hrep : i.settings.rep? = some r)
    (htask : i.task = .audit (some a) (some b) (some m)) (h : Audit.run ref r a b m = .ok audit) :
    i.Answers ref ⟨audit.toDocument, audit.allAgree⟩ where
  headed := ⟨_, by rw [htask]; rfl⟩
  agrees_iff := by
    have hall : audit.allAgree = false ↔ ∃ c ∈ audit.checks, c.agrees = false := by
      rw [Audit.allAgree, List.all_eq_false]
      simp only [Bool.not_eq_true]
    constructor
    · exact fun ha ↦ ⟨r, a, b, m, audit, hrep, htask, h, rfl, hall.mp ha⟩
    · rintro ⟨_, _, _, _, audit', hrep', htask', h', -, hc⟩
      cases hrep.symm.trans hrep'
      cases htask.symm.trans htask'
      cases h.symm.trans h'
      exact hall.mpr hc

section Lift

variable {β : Type} {m : Checked β}

/-- Checked arithmetic without a division by zero is followed by what reports its result. -/
theorem lift_ends (h : ¬DividesByZero m) {f : β → Answer Report}
    (hf : ∀ x, i.EndsAnswering ref (f x)) : i.EndsAnswering ref (liftM m >>= f) := by
  cases m with
  | error e =>
    refine .failure fun he ↦ ?_
    rw [he] at h
    exact absurd rfl h
  | ok x => exact hf x

/-- A report that is made among checked arithmetic without a division by zero is passed on. -/
theorem lift_bind_ends (h : ¬DividesByZero m) {f : β → Report} (hf : ∀ x, i.Answers ref (f x)) :
    i.EndsAnswering ref (liftM (m >>= fun x ↦ (.ok (f x) : Checked Report))) := by
  have heq : (liftM (m >>= fun x ↦ (.ok (f x) : Checked Report)) : Answer Report) =
      liftM m >>= fun x ↦ .ok (f x) := by
    cases m <;> rfl
  rw [heq]
  exact lift_ends h fun x ↦ .value (hf x)

end Lift

/-- The reference scenarios all come out as expected. -/
theorem Scenarios.exists_run :
    ∃ results, Scenarios.run = .ok results ∧ Scenarios.allHold results = true := by
  have h : Scenarios.allHold <$> Scenarios.run = .ok true := by decide +kernel
  exact exists_of_map_eq_ok h

/-- Only an index or a number of solutions can be missing for the solutions to show. -/
theorem span_ends {start? count? : Option Int} {F : Prop} {P : Failure → Prop}
    (h : count? = none ∨ start? = none → F) :
    Ends F P (fun _ ↦ True) (span start? count?) := by
  cases start? with
  | none => cases count? <;> exact .fault rfl (h (.inr rfl))
  | some start =>
    cases count? with
    | none => exact .fault rfl (h (.inl rfl))
    | some count => exact .value trivial

/-- A power divides by zero only modulo zero. -/
theorem power_ends {x n m : Operand r.Carrier} (hu : i.Converts (.power x n m)) :
    i.EndsAnswering ref (compute ref r i.start? i.count? (.power x n m)) := by
  have htask : i.task = .power (some x.int) (some n.int) (some m.int) :=
    Task.eq_of_operands hu.mode.symm hu.operands.symm
  have hx := hu.reads x (.head _)
  have hn := hu.reads n (.tail _ (.head _))
  have hm := hu.reads m (.tail _ (.tail _ (.head _)))
  refine Ends.bind (Q := fun _ ↦ True) ?_ fun _ _ ↦
    .value (document_answers hu.mode nofun ..)
  apply Ends.lift
  · rintro _ he rfl
    obtain ⟨hpos, hzero⟩ := (powMod_dividesByZero_iff ..).mp he
    rw [hn] at hpos
    rw [hm] at hzero
    have hm := Rep.holds_iff.mp hm.holds
    rw [hzero] at htask hm
    exact ⟨r, x.int, n.int, hu.rep_eq nofun, htask, hpos, Rep.holds_iff.mp hx.holds,
      Rep.holds_iff.mp hn.holds, hm⟩
  · exact fun _ _ ↦ trivial

/-- An audit ends with its document, or with a refusal that has no text. -/
theorem audit_ends (hr : ref.Sound) {a b m : Operand r.Carrier} (hu : i.Converts (.audit a b m)) :
    i.EndsAnswering ref (compute ref r i.start? i.count? (.audit a b m)) := by
  have htask : i.task = .audit (some a.int) (some b.int) (some m.int) :=
    Task.eq_of_operands hu.mode.symm hu.operands.symm
  have hrep := hu.rep_eq nofun
  have ha := hu.reads a (.head _)
  have hb := hu.reads b (.tail _ (.head _))
  have hm := hu.reads m (.tail _ (.tail _ (.head _)))
  by_cases hu : r = .unbounded ∧ Audit.Unwritable a.int b.int m.int
  · obtain ⟨rfl, hu⟩ := hu
    obtain ⟨e, hrun, hlong⟩ := hu.run hr
    simp only [compute, hrun]
    -- a division by zero can be written
    refine .failure ?_
    rintro rfl
    cases hlong
  · obtain ⟨audit, hrun, -⟩ := Audit.exists_run (Rep.holds_iff.mp ha.holds)
      (Rep.holds_iff.mp hb.holds) (Rep.holds_iff.mp hm.holds) hr hu
    simp only [compute, hrun]
    exact .value (audit_answers hrep htask hrun)

/-- The scenarios end with their document. -/
theorem scenarios_ends (hu : i.Converts (r := r) .scenarios) :
    i.EndsAnswering ref (compute ref r i.start? i.count? .scenarios) := by
  obtain ⟨results, hrun, hall⟩ := Scenarios.exists_run
  have hcompute : compute ref r i.start? i.count? .scenarios =
      .ok ⟨Scenarios.toDocument results, Scenarios.allHold results⟩ := by
    simp only [compute, hrun]
    rfl
  rw [hcompute]
  refine .value ⟨⟨_, by rw [← hu.mode]; rfl⟩, iff_of_false (by simp [hall]) ?_⟩
  rintro ⟨_, _, _, _, _, -, htask, -⟩
  have hmode := hu.mode
  rw [htask] at hmode
  cases hmode

/-- With its operands converted an invocation ends with an answer. -/
theorem compute_ends (hr : ref.Sound) (u : Task (Operand r.Carrier)) (hu : i.Converts u) :
    i.EndsAnswering ref (compute ref r i.start? i.count? u) := by
  cases u with
  | xgcd a b =>
    exact lift_bind_ends (Euclid.xgcd_not_dividesByZero _ _) fun _ ↦
      document_answers hu.mode nofun ..
  | gcd a b =>
    apply lift_ends (Euclid.gcd_not_dividesByZero _ _)
    exact fun _ ↦ .value (document_answers hu.mode nofun ..)
  | lcm a b =>
    apply lift_ends (Euclid.lcm_not_dividesByZero _ _)
    exact fun _ ↦ .value (document_answers hu.mode nofun ..)
  | diophantine a b c =>
    apply lift_ends (Diophantine.solve_not_dividesByZero _ _ _)
    rintro ⟨family, g⟩
    apply (span_ends fun h ↦ h.elim .count .start).bind
    rintro ⟨start, count⟩ -
    apply lift_ends (family.take_not_dividesByZero _ _)
    exact fun _ ↦ .value (document_answers hu.mode nofun ..)
  | congruence a b m =>
    exact lift_bind_ends (Congruence.solve_not_dividesByZero _ _ _) fun _ ↦
      document_answers hu.mode nofun ..
  | inverse n m =>
    apply lift_ends (Congruence.inverse_not_dividesByZero _ _)
    exact fun _ ↦ .value (document_answers hu.mode nofun ..)
  | power x n m => exact power_ends hu
  | topBit n => exact .value (document_answers hu.mode nofun ..)
  | audit a b m => exact audit_ends hr hu
  | scenarios => exact scenarios_ends hu

/-- A missing operand is of the wrong kind in every mode. -/
theorem missingOperand_kind (mode : Mode) (r : Rep) : (missingOperand mode r).kind = .type := by
  cases r with
  | unbounded =>
    rw [missingOperand]
    split <;> rfl
  | fixed => rfl
  | signMagnitude => rfl

/-- An operand is converted to its value, overflows or is missing. -/
theorem operand_ends (mode : Mode) (k? : Option Int) :
    Ends (k? = none) Failure.IsOverflow
      (fun o : Operand r.Carrier ↦ some o.int = k? ∧ Reads o.value o.int) (operand mode r k?) := by
  cases k? with
  | none => exact .fault (missingOperand_kind mode r) rfl
  | some k =>
    cases h : (ofInt k : Checked r.Carrier) with
    | error e =>
      rw [operand, h]
      exact .failure (isOverflow_of_ofInt_eq_error h)
    | ok x =>
      rw [operand, h]
      exact .value ⟨rfl, toInt_of_ofInt_eq_ok h⟩

private theorem forall_of_forall₂ {ks : List (Option Int)} {os : List (Operand r.Carrier)}
    (h : List.Forall₂ (fun k? o ↦ some o.int = k? ∧ Reads o.value o.int) ks os) :
    os.map (fun o ↦ some o.int) = ks ∧ ∀ o ∈ os, Reads o.value o.int := by
  induction h with
  | nil => exact ⟨rfl, List.forall_mem_nil _⟩
  | cons ho _ ih =>
    rw [List.map_cons, ho.1, ih.1]
    exact ⟨rfl, List.forall_mem_cons.mpr ⟨ho.2, ih.2⟩⟩

/-- The operands of an invocation are converted, or one of them overflows or is missing. -/
theorem mapM_operand_ends (hrep : i.settings.rep? = some r ∨ i.task.mode = .scenarios) :
    Ends (none ∈ i.task.operands) Failure.IsOverflow
      (fun u : Task (Operand r.Carrier) ↦ i.Converts u)
      (i.task.mapM (operand i.task.mode r)) := by
  have hlist : Ends (none ∈ i.task.operands) Failure.IsOverflow _
      (i.task.operands.mapM (operand i.task.mode r)) :=
    Ends.mapM i.task.operands fun k? hk ↦
      (operand_ends i.task.mode k?).imp (fun hnone ↦ hnone ▸ hk) (fun _ ↦ id) fun _ ↦ id
  -- the task is traversed as the list of its operands, from which it is put together again
  have htask := Task.ofList?_mapM (operand i.task.mode r) i.task
  generalize i.task.operands.mapM (operand i.task.mode r) = os at hlist htask
  cases hm : i.task.mapM (operand i.task.mode r) with
  | error e =>
    rw [hm] at htask
    cases hlist with
    | value => cases htask
    | failure he =>
      cases htask
      exact .failure he
    | fault hkind h =>
      cases htask
      exact .fault hkind h
  | ok u =>
    rw [hm] at htask
    cases hlist with
    | value hos =>
      obtain ⟨hmode, rfl⟩ := Task.eq_of_ofList? (Except.ok.inj htask).symm
      obtain ⟨hoperands, hreads⟩ := forall_of_forall₂ hos
      exact .value ⟨hrep, hmode, hoperands, hreads⟩
    | failure => cases htask
    | fault => cases htask

end Compute

namespace Invocation

variable {ref : References} {i : Invocation}

/-- With its representation given a run converts the operands and computes. -/
theorem run_eq (ref : References) {r : Rep} (h : i.settings.rep? = some r) :
    i.run ref = i.task.mapM (operand i.task.mode r) >>= compute ref r i.start? i.count? := by
  unfold run
  rw [h]
  rfl

/-- A run converts the operands and computes, or lacks a representation. -/
theorem run_cases (ref : References) (i : Invocation) :
    (∃ r, (i.settings.rep? = some r ∨ i.task.mode = .scenarios) ∧
      i.run ref = i.task.mapM (operand i.task.mode r) >>= compute ref r i.start? i.count?) ∨
    i.settings.rep? = none ∧ i.run ref = .error (.unhashable "list") := by
  cases hrep : i.settings.rep? with
  | some r => exact .inl ⟨r, .inl rfl, run_eq ref hrep⟩
  | none =>
    cases htask : i.task with
    | scenarios =>
      refine .inl ⟨.unbounded, .inr rfl, ?_⟩
      rw [run, hrep, htask]
      rfl
    | _ =>
      refine .inr ⟨rfl, ?_⟩
      rw [run, hrep, htask]
      rfl

/-- Every run ends with such an answer. -/
theorem run_ends (hr : ref.Sound) (i : Invocation) : i.EndsAnswering ref (i.run ref) := by
  obtain ⟨r, hrep, hrun⟩ | ⟨hrep, hrun⟩ := i.run_cases ref
  · rw [hrun]
    refine ((mapM_operand_ends hrep).imp .operand ?_ fun _ ↦ id).bind (compute_ends hr)
    -- what is converted overflows at most
    rintro e he rfl
    cases he
  · rw [hrun]
    exact .fault rfl (.rep hrep)

/-- A run divides by zero just for a power with a positive exponent modulo zero whose operands are
representable. -/
theorem run_dividesByZero_iff (hr : ref.Sound) (i : Invocation) :
    i.run ref = .error (.failure .divisionByZero) ↔ i.IsPowerModuloZero := by
  constructor
  · intro hzero
    have hends := i.run_ends hr
    rw [hzero] at hends
    cases hends with
    | failure he => exact he rfl
    | fault hkind => cases hkind
  · rintro ⟨r, x, n, hrep, htask, hpos, hx, hn, hm⟩
    obtain ⟨x', hx⟩ := Rep.exists_ofInt_of_represents hx
    obtain ⟨n', hn⟩ := Rep.exists_ofInt_of_represents hn
    obtain ⟨m', hm⟩ := Rep.exists_ofInt_of_represents hm
    have hpower : powMod x' n' m' = .error .divisionByZero := by
      rw [← toInt_of_ofInt_eq_ok hn] at hpos
      exact (powMod_dividesByZero_iff ..).mpr ⟨hpos, toInt_of_ofInt_eq_ok hm⟩
    have hoperands : i.task.mapM (operand i.task.mode r) =
        .ok (.power ⟨x, x'⟩ ⟨n, n'⟩ ⟨0, m'⟩) := by
      simp only [htask, Task.mapM, operand, hx, hn, hm]
      rfl
    have hcompute : compute ref r i.start? i.count? (.power ⟨x, x'⟩ ⟨n, n'⟩ ⟨0, m'⟩) =
        .error (.failure .divisionByZero) := by
      simp only [compute, hpower]
      rfl
    rw [run_eq ref hrep, hoperands]
    exact hcompute

/-- What a run reports is what is asked for. -/
theorem answers_of_run_eq_ok (hr : ref.Sound) {report : Report} (h : i.run ref = .ok report) :
    i.Answers ref report := by
  have hends := i.run_ends hr
  rw [h] at hends
  cases hends with
  | value hanswers => exact hanswers

/-- Another fault than a failure of checked arithmetic is about a missing value. -/
theorem lacksValue_of_run_eq_error (hr : ref.Sound) {e : Fault} (h : i.run ref = .error e) :
    (∃ cause, e = .failure cause) ∨ e.kind = .type ∧ i.LacksValue := by
  have hends := i.run_ends hr
  rw [h] at hends
  cases hends with
  | failure => exact .inl ⟨_, rfl⟩
  | fault hkind hlacks => exact .inr ⟨hkind, hlacks⟩

end Invocation

end CommandLine

end Aliquot
