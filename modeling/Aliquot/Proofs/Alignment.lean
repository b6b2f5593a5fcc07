import Aliquot.Proofs.Report.Bounded
import Aliquot.Proofs.Simulation.Operands

/-!
# Values brought to one representation

A scan looks for the bounded type among the values and refuses what is no number, a second bounded
type and every unsigned one. Only then integers are converted, so a value that is refused comes
before an integer that does not fit, wherever the two stand. The first integer that does not fit is
the one that is reported, as an overflow if it can be written.
-/

namespace Aliquot.Value

open CheckedInt
open Text (isLong)

variable {r s found : Rep} {v : Value} {values rest : List Value} {ns : List Number}

/-- A number of the bounded type `r` is among the values. -/
def Occurs (r : Rep) (values : List Value) : Prop :=
  r ≠ .unbounded ∧ ∃ x : r.Carrier, ofCarrier r x ∈ values

/-- Among the values is one that is no number, numbers are of two bounded types, or a type of theirs
is unsigned. -/
inductive Refused (values : List Value) : Prop where
  | notNumber {v : Value} (hv : v ∈ values) (h : ∀ x, v ≠ number x)
  | mixed {r s : Rep} (hr : Occurs r values) (hs : Occurs s values) (h : r ≠ s)
  | unsigned {r : Rep} (hr : Occurs r values) (h : r.isUnsigned = true)

/-- An unbounded integer among the values does not fit a bounded type among them. -/
def Misfit (values : List Value) : Prop :=
  ∃ r k, Occurs r values ∧ int k ∈ values ∧ ¬r.Represents k

/-- The integer `k` is the first unbounded one among the values that does not fit the type `r`. -/
inductive FirstMisfit (r : Rep) (k : Int) : List Value → Prop where
  | here {rest : List Value} (h : ¬r.Represents k) : FirstMisfit r k (int k :: rest)
  | later {v : Value} {rest : List Value} (hv : ∀ j, v = int j → r.Represents j)
      (h : FirstMisfit r k rest) : FirstMisfit r k (v :: rest)

namespace FirstMisfit

variable {j k : Int}

/-- It is among the values and does not fit. -/
theorem mem (h : FirstMisfit r k values) : int k ∈ values ∧ ¬r.Represents k := by
  induction h with
  | here h => exact ⟨List.mem_cons_self .., h⟩
  | later _ _ ih => exact ⟨List.mem_cons_of_mem _ ih.1, ih.2⟩

/-- There is only one first. -/
theorem unique (hj : FirstMisfit r j values) (hk : FirstMisfit r k values) : j = k := by
  induction hj with
  | here hj =>
    cases hk with
    | here => rfl
    | later hfits => exact absurd (hfits j rfl) hj
  | later hfits _ ih =>
    cases hk with
    | here hk => exact absurd (hfits k rfl) hk
    | later _ hk => exact ih hk

end FirstMisfit

/-- A type that occurs in the rest occurs. -/
theorem Occurs.tail (v : Value) (h : Occurs r rest) : Occurs r (v :: rest) :=
  ⟨h.1, h.2.imp fun _ ↦ List.mem_cons_of_mem v⟩

/-- The type of the first value occurs. -/
theorem occurs_head (hb : r ≠ .unbounded) (x : r.Carrier) : Occurs r (ofCarrier r x :: rest) :=
  ⟨hb, x, List.mem_cons_self ..⟩

/-- What is refused in the rest is refused. -/
theorem Refused.tail (v : Value) (h : Refused rest) : Refused (v :: rest) := by
  cases h with
  | notNumber hv h => exact .notNumber (List.mem_cons_of_mem v hv) h
  | mixed hr hs h => exact .mixed (hr.tail v) (hs.tail v) h
  | unsigned hr h => exact .unsigned (hr.tail v) h

section Scan

/-- What the scan does at a value, when the representation `found` was found before. -/
inductive Joins (found : Rep) : Value → Answer Rep → Prop where
  | plain (k : Int) : Joins found (int k) (.ok found)
  | own {r : Rep} (x : r.Carrier) (hb : r ≠ .unbounded) (hs : r.isUnsigned = false)
      (hf : found = .unbounded ∨ found = r) : Joins found (ofCarrier r x) (.ok r)
  | notNumber {v : Value} (h : ∀ x, v ≠ number x) :
      Joins found v (.error (.notNumeric v.typeName))
  | mixed {r : Rep} (x : r.Carrier) (hb : r ≠ .unbounded) (hf : found ≠ .unbounded)
      (h : found ≠ r) : Joins found (ofCarrier r x) (.error (.mixed found.typeName r.typeName))
  | unsigned {r : Rep} (x : r.Carrier) (hb : r ≠ .unbounded) (h : r.isUnsigned = true) :
      Joins found (ofCarrier r x) (.error (.unsignedNumber r.typeName))

/-- It does nothing else. -/
theorem joins (found : Rep) (v : Value) : Joins found v (joinRep found v) := by
  cases v with
  | number x =>
    obtain ⟨r, x⟩ := x
    unfold joinRep
    dsimp only
    split
    · next hr =>
      subst hr
      exact .plain x
    · next hb =>
      split
      · next h => exact .mixed x hb h.1 h.2
      · next h =>
        split
        · next hu => exact .unsigned x hb hu
        · next hu =>
          exact .own x hb (Bool.not_eq_true _ ▸ hu) (by
            by_cases hf : found = .unbounded
            · exact .inl hf
            · exact .inr (not_not.mp fun hr ↦ h ⟨hf, hr⟩))
  | float x => exact .notNumber fun _ h ↦ nomatch h
  | text s => exact .notNumber fun _ h ↦ nomatch h
  | null => exact .notNumber fun _ h ↦ nomatch h

/-- The value is an unbounded integer or one of the representation `r`. -/
inductive PlainOr (r : Rep) : Value → Prop where
  | plain (k : Int) : PlainOr r (int k)
  | own (x : r.Carrier) : PlainOr r (ofCarrier r x)

/-- A scan that ends with a representation has found it before or has come to a value of it, and all
values are of that representation or unbounded integers. -/
theorem of_foldlM_joinRep_eq_ok (h : values.foldlM joinRep found = .ok r) :
    (found = .unbounded ∨ found = r) ∧ (∀ v ∈ values, PlainOr r v) ∧
      (r = found ∨ Occurs r values ∧ r.isUnsigned = false) := by
  induction values generalizing found with
  | nil =>
    cases h
    exact ⟨.inr rfl, by simp, .inl rfl⟩
  | cons v rest ih =>
    rw [List.foldlM_cons] at h
    have hstep := joins found v
    generalize joinRep found v = answer at h hstep
    cases hstep with
    | plain k =>
      obtain ⟨hfound, hrest, hr⟩ := ih h
      refine ⟨hfound, List.forall_mem_cons.mpr ⟨.plain k, hrest⟩, ?_⟩
      exact hr.imp_right fun hr ↦ ⟨hr.1.tail _, hr.2⟩
    | @own s x hb hs hf =>
      -- the rest is scanned with `s` found, which is bounded and so stays
      obtain ⟨hfound, hrest, -⟩ := ih h
      obtain rfl := hfound.resolve_left hb
      exact ⟨hf, List.forall_mem_cons.mpr ⟨.own x, hrest⟩, .inr ⟨occurs_head hb x, hs⟩⟩
    | notNumber | mixed | unsigned => cases h

/-- A scan that ends with a fault has come to a value that is refused, or to a number of another
bounded type than the one found before. -/
theorem of_foldlM_joinRep_eq_error {e : Fault} (h : values.foldlM joinRep found = .error e) :
    e.reported.kind = .type ∧
      (Refused values ∨ ∃ s, Occurs s values ∧ found ≠ .unbounded ∧ found ≠ s) := by
  induction values generalizing found with
  | nil => cases h
  | cons v rest ih =>
    rw [List.foldlM_cons] at h
    have hstep := joins found v
    generalize joinRep found v = answer at h hstep
    cases hstep with
    | plain k =>
      obtain ⟨hkind, hrest⟩ := ih h
      refine ⟨hkind, hrest.imp (.tail _) fun ⟨s, hs, hf⟩ ↦ ⟨s, hs.tail _, hf⟩⟩
    | own x hb hs hf =>
      obtain ⟨hkind, hrest⟩ := ih h
      refine ⟨hkind, .inl ?_⟩
      -- a type that differs from the one found at this value makes the values mixed
      rcases hrest with hrest | ⟨s, hs, -, hne⟩
      · exact hrest.tail _
      · exact .mixed (occurs_head hb x) (hs.tail _) hne
    | notNumber hv =>
      cases h
      exact ⟨rfl, .inl (.notNumber (List.mem_cons_self ..) hv)⟩
    | mixed x hb hf hne =>
      cases h
      exact ⟨rfl, .inr ⟨_, occurs_head hb x, hf, hne⟩⟩
    | unsigned x hb hu =>
      cases h
      exact ⟨rfl, .inl (.unsigned (occurs_head hb x) hu)⟩

/-- A bounded type of which there is a number is the one that is found. -/
theorem PlainOr.eq_of_ofCarrier {x : s.Carrier} (hb : s ≠ .unbounded)
    (h : PlainOr r (ofCarrier s x)) : s = r := by
  generalize hv : ofCarrier s x = v at h
  cases h with
  | plain k =>
    cases hv
    exact absurd rfl hb
  | own y =>
    cases hv
    rfl

/-- All values are unbounded integers or numbers of the representation `r`, which occurs and is not
unsigned unless it is that of the unbounded integers. -/
structure Common (r : Rep) (values : List Value) : Prop where
  plainOr : ∀ v ∈ values, PlainOr r v
  occurs : r ≠ .unbounded → Occurs r values
  signed : r.isUnsigned = false

/-- The type that is found is in common. -/
theorem common_of_commonRep_eq_ok (h : commonRep values = .ok r) : Common r values := by
  obtain ⟨-, hall, hr⟩ := of_foldlM_joinRep_eq_ok h
  rcases hr with rfl | ⟨hr, hs⟩
  · exact ⟨hall, fun hb ↦ absurd rfl hb, rfl⟩
  · exact ⟨hall, fun _ ↦ hr, hs⟩

/-- A type that occurs is the one in common. -/
theorem Common.eq_of_occurs (h : Common r values) (hs : Occurs s values) : s = r := by
  obtain ⟨hb, x, hx⟩ := hs
  exact (h.plainOr _ hx).eq_of_ofCarrier hb

/-- Values with a type in common are not refused. -/
theorem Common.not_refused (h : Common r values) : ¬Refused values := by
  rintro (⟨hv, hnone⟩ | ⟨hs, ht, hne⟩ | ⟨hs, hu⟩)
  · cases h.plainOr _ hv with
    | plain k => exact hnone _ rfl
    | own x => exact hnone _ rfl
  · exact hne ((h.eq_of_occurs hs).trans (h.eq_of_occurs ht).symm)
  · rw [h.eq_of_occurs hs, h.signed] at hu
    cases hu

/-- Values are refused, or they have a type in common. -/
theorem commonRep_cases (values : List Value) :
    (Refused values ∧ ∃ e, commonRep values = .error e ∧ e.reported.kind = .type) ∨
      ∃ r, commonRep values = .ok r ∧ Common r values := by
  cases h : commonRep values with
  | error e =>
    obtain ⟨hkind, hrefused | ⟨-, -, hne, -⟩⟩ := of_foldlM_joinRep_eq_error h
    · exact .inl ⟨hrefused, e, rfl, hkind⟩
    · exact absurd rfl hne
  | ok r => exact .inr ⟨r, rfl, common_of_commonRep_eq_ok h⟩

end Scan

section Conversion

/-- A value as a number of the representation `r`. -/
def intoNumber (r : Rep) (v : Value) : Answer Number := do return ⟨r, ← v.into r⟩

/-- The values are converted when the scan has ended. -/
theorem align_of_commonRep_eq_ok (h : commonRep values = .ok r) :
    align values = values.mapM (intoNumber r) := by
  rw [align, h]
  rfl

/-- A number is converted by way of its integer, which gives the number itself if it is of that
representation. -/
theorem intoNumber_number (r : Rep) (m : Number) :
    intoNumber r (number m) = (Number.ofInt r m.toInt).mapError .failure := by
  have hinto : m.into r = CheckedInt.ofInt m.toInt := by
    by_cases h : m.rep = r
    · subst h
      exact m.into_self.trans (CheckedInt.ofInt_toInt m.val).symm
    · exact Number.into_of_ne h
  change ((m.into r).mapError Fault.failure >>= fun x ↦ Except.ok (Number.mk r x)) = _
  rw [hinto, Number.ofInt]
  cases (CheckedInt.ofInt m.toInt : Checked r.Carrier) <;> rfl

/-- The number `n` of the representation `r` has the integer of the value. -/
structure Converts (r : Rep) (v : Value) (n : Number) : Prop where
  rep_eq : n.rep = r
  toInt_eq : ∃ m, v = number m ∧ n.toInt = m.toInt

/-- A number whose integer is represented is converted. -/
theorem intoNumber_of_represents {m : Number} (h : r.Represents m.toInt) :
    ∃ n, intoNumber r (number m) = .ok n ∧ Converts r (number m) n := by
  obtain ⟨x, hx⟩ := Rep.exists_ofInt_of_represents h
  refine ⟨⟨r, x⟩, ?_, rfl, m, rfl, toInt_of_ofInt_eq_ok hx⟩
  rw [intoNumber_number, Number.ofInt, hx]
  rfl

/-- The fault is the overflow of an integer that the representation does not hold. The overflow
names it or its magnitude. -/
def Overflows (r : Rep) (k : Int) (e : Fault) : Prop :=
  ¬r.Represents k ∧ ∃ j typeName, e = .failure (.outOfRange j typeName) ∧ j.natAbs = k.natAbs

/-- A value is converted, or it is an unbounded integer that overflows. -/
theorem PlainOr.intoNumber_cases (h : PlainOr r v) :
    (∃ n, intoNumber r v = .ok n ∧ Converts r v n) ∨
      ∃ k e, v = int k ∧ intoNumber r v = .error e ∧ Overflows r k e := by
  cases h with
  | own x => exact .inl (intoNumber_of_represents (m := ⟨r, x⟩) (Rep.represents_toInt x))
  | plain k =>
    by_cases hk : r.Represents k
    · exact .inl (intoNumber_of_represents (m := .unbounded k) hk)
    · obtain ⟨j, typeName, hofInt, hj⟩ := Rep.exists_ofInt_eq_outOfRange hk
      refine .inr ⟨k, _, rfl, ?_, hk, j, typeName, rfl, hj⟩
      rw [int, intoNumber_number, Number.ofInt]
      change ((Number.mk r <$> (CheckedInt.ofInt k : Checked r.Carrier)).mapError _) = _
      rw [hofInt]
      rfl

/-- An unbounded integer that is converted is represented. -/
theorem Converts.represents {k : Int} {n : Number} (h : Converts r (int k) n) : r.Represents k := by
  obtain ⟨rfl, m, hm, hint⟩ := h
  cases hm
  have hrep := Rep.represents_toInt n.val
  change n.rep.Represents n.toInt at hrep
  rwa [hint] at hrep

/-- All values are converted, each in its place, or the first unbounded integer that does not fit
overflows. -/
theorem mapM_intoNumber_cases (h : ∀ v ∈ values, PlainOr r v) :
    (∃ ns, values.mapM (intoNumber r) = .ok ns ∧ List.Forall₂ (Converts r) values ns) ∨
      ∃ k e, FirstMisfit r k values ∧ values.mapM (intoNumber r) = .error e ∧ Overflows r k e := by
  induction values with
  | nil => exact .inl ⟨[], rfl, .nil⟩
  | cons v rest ih =>
    obtain ⟨hv, hrest⟩ := List.forall_mem_cons.mp h
    rw [List.mapM_cons]
    rcases hv.intoNumber_cases with ⟨n, hn, hconv⟩ | ⟨k, e, rfl, he, hover⟩
    · rw [hn]
      rcases ih hrest with ⟨ns, hns, hall⟩ | ⟨k, e, hk, he, hover⟩
      · refine .inl ⟨n :: ns, ?_, .cons hconv hall⟩
        rw [hns]
        rfl
      · refine .inr ⟨k, e, .later ?_ hk, ?_, hover⟩
        · rintro j rfl
          exact hconv.represents
        · rw [he]
          rfl
    · refine .inr ⟨k, e, .here hover.1, ?_, hover⟩
      rw [he]
      rfl

/-- No integer among values that are all converted overflows. -/
theorem represents_of_forall₂_converts (h : List.Forall₂ (Converts r) values ns) {k : Int}
    (hk : int k ∈ values) : r.Represents k := by
  induction h with
  | nil => cases hk
  | cons hn _ ih =>
    rcases List.mem_cons.mp hk with rfl | hk
    · exact hn.represents
    · exact ih hk

/-- Numbers of the representation are converted to themselves. -/
theorem mapM_intoNumber_map_number (h : ∀ n ∈ ns, n.rep = r) :
    (ns.map number).mapM (intoNumber r) = .ok ns := by
  induction ns with
  | nil => rfl
  | cons n ns ih =>
    obtain ⟨rfl, hns⟩ := List.forall_mem_cons.mp h
    rw [List.map_cons, List.mapM_cons, intoNumber_number, n.ofInt_toInt, ih hns]
    rfl

end Conversion

/-- Such an overflow is reported under the class for the integer. -/
theorem Overflows.kind_reported {k : Int} {e : Fault} (h : Overflows r k e) :
    e.reported.kind = Fault.overflowKind k := by
  obtain ⟨-, j, typeName, rfl, hj⟩ := h
  rw [Fault.kind_reported_outOfRange, Fault.overflowKind_congr hj]

/-- An overflow is never reported as a value of the wrong type. -/
theorem overflowKind_ne_type (k : Int) : Fault.overflowKind k ≠ .type := by
  unfold Fault.overflowKind
  split <;> simp

/-- What becomes of values: they are refused, they are all converted, or the first integer that does
not fit overflows. -/
inductive Aligns (values : List Value) : Answer (List Number) → Prop where
  | refused {e : Fault} (h : Refused values) (hkind : e.reported.kind = .type) :
      Aligns values (.error e)
  | converted {r : Rep} {ns : List Number} (h : Common r values)
      (hall : List.Forall₂ (Converts r) values ns) : Aligns values (.ok ns)
  | overflow {r : Rep} {k : Int} {e : Fault} (h : Common r values) (hk : FirstMisfit r k values)
      (hover : Overflows r k e) : Aligns values (.error e)

/-- Nothing else becomes of them. -/
theorem aligns (values : List Value) : Aligns values (align values) := by
  rcases commonRep_cases values with ⟨hrefused, e, he, hkind⟩ | ⟨r, hr, hcommon⟩
  · have halign : align values = .error e := by
      rw [align, he]
      rfl
    rw [halign]
    exact .refused hrefused hkind
  · rw [align_of_commonRep_eq_ok hr]
    rcases mapM_intoNumber_cases hcommon.plainOr with ⟨ns, hns, hall⟩ | ⟨k, e, hk, he, hover⟩
    · rw [hns]
      exact .converted hcommon hall
    · rw [he]
      exact .overflow hcommon hk hover

/-- The type in common is the one that an integer has to fit. -/
theorem Common.misfit_iff (h : Common r values) :
    Misfit values ↔ ∃ k, int k ∈ values ∧ ¬r.Represents k := by
  constructor
  · rintro ⟨s, k, hs, hk, hrep⟩
    exact ⟨k, hk, h.eq_of_occurs hs ▸ hrep⟩
  · rintro ⟨k, hk, hrep⟩
    have hb : r ≠ .unbounded := by
      rintro rfl
      exact hrep trivial
    exact ⟨r, k, h.occurs hb, hk, hrep⟩

section Again

/-- A number of a representation that is not unsigned decides it, where nothing else was found
before. -/
theorem joinRep_number {n : Number} (hs : r.isUnsigned = false) (hn : n.rep = r)
    (hf : found = .unbounded ∨ found = r) : joinRep found (number n) = .ok r := by
  obtain ⟨r', x⟩ := n
  cases hn
  by_cases hb : r' = .unbounded
  · subst hb
    obtain rfl := or_self_iff.mp hf
    exact joinRep_int _ x
  · exact joinRep_ofCarrier hb hs hf x

/-- More numbers of the representation that was found do not change it. -/
theorem foldlM_joinRep_map_number (hs : r.isUnsigned = false) (h : ∀ n ∈ ns, n.rep = r) :
    (ns.map number).foldlM joinRep r = .ok r := by
  induction ns with
  | nil => rfl
  | cons n ns ih =>
    obtain ⟨hn, hns⟩ := List.forall_mem_cons.mp h
    rw [List.map_cons, List.foldlM_cons, joinRep_number hs hn (.inr rfl)]
    exact ih hns

/-- Numbers of one representation stay what they are. -/
theorem align_map_number (hs : r.isUnsigned = false) (h : ∀ n ∈ ns, n.rep = r) :
    align (ns.map number) = .ok ns := by
  cases ns with
  | nil => rfl
  | cons n ns =>
    obtain ⟨hn, hns⟩ := List.forall_mem_cons.mp h
    have hcommon : commonRep ((n :: ns).map number) = .ok r := by
      rw [commonRep, List.map_cons, List.foldlM_cons, joinRep_number hs hn (.inl rfl)]
      exact foldlM_joinRep_map_number hs hns
    rw [align_of_commonRep_eq_ok hcommon, mapM_intoNumber_map_number h]

/-- Converted values are all of one representation. -/
theorem rep_eq_of_forall₂_converts (h : List.Forall₂ (Converts r) values ns) :
    ∀ n ∈ ns, n.rep = r := by
  induction h with
  | nil => simp
  | cons hn _ ih => exact List.forall_mem_cons.mpr ⟨hn.rep_eq, ih⟩

end Again

/-- The values have become numbers with their integers in their places. The representation of all of
them is the bounded type that occurs, or that of the unbounded integers where there is none. -/
structure AlignedTo (r : Rep) (values : List Value) (ns : List Number) : Prop where
  converts : List.Forall₂ (Converts r) values ns
  eq_of_occurs : ∀ s, Occurs s values → r = s
  unbounded : (∀ s, ¬Occurs s values) → r = .unbounded

/-- Some integer is the first one among the values that does not fit a bounded type among them;
`long` says whether it is too long to be written. -/
def FirstMisfitIs (long : Bool) (values : List Value) : Prop :=
  ∃ r k, Occurs r values ∧ FirstMisfit r k values ∧ isLong k = long

/-- Values are refused, do not all fit or are brought to one representation, each for its one
reason, and once they are of one representation they stay what they are. The first integer that does
not fit overflows, which is reported as such if it can be written. -/
structure AlignsExactly (values : List Value) : Prop where
  refused : StopsAs (align values) .type ↔ Refused values
  overflow : ¬Refused values →
    (StopsAs (align values) (.failure .overflow) ↔ FirstMisfitIs false values)
  unwritable : ¬Refused values → (StopsAs (align values) .value ↔ FirstMisfitIs true values)
  named : ¬Refused values → ∀ e, align values = .error e →
    ∃ r k, Occurs r values ∧ FirstMisfit r k values ∧ Overflows r k e
  aligned : ¬Refused values → ¬Misfit values →
    ∃ r ns, align values = .ok ns ∧ AlignedTo r values ns
  again : ∀ ns, align values = .ok ns → align (ns.map number) = .ok ns

section Outcomes

variable {e : Fault} {k : Int} {long : Bool}

/-- A first misfit is a misfit. -/
theorem FirstMisfitIs.misfit (h : FirstMisfitIs long values) : Misfit values := by
  obtain ⟨r, k, hr, hk, -⟩ := h
  exact ⟨r, k, hr, hk.mem⟩

/-- Where a type is in common, its first misfit decides. -/
theorem Common.firstMisfitIs_iff (h : Common r values) (hk : FirstMisfit r k values) :
    FirstMisfitIs long values ↔ isLong k = long := by
  constructor
  · rintro ⟨s, j, hs, hj, hlong⟩
    obtain rfl := h.eq_of_occurs hs
    rwa [hk.unique hj]
  · intro hlong
    have hb : r ≠ .unbounded := by
      rintro rfl
      exact hk.mem.2 trivial
    exact ⟨r, k, h.occurs hb, hk, hlong⟩

/-- Values that are refused are never brought to one representation. -/
theorem alignsExactly_of_refused (halign : align values = .error e) (h : Refused values)
    (hkind : e.reported.kind = .type) : AlignsExactly values where
  refused := iff_of_true ⟨e, halign, hkind⟩ h
  overflow hnot := absurd h hnot
  unwritable hnot := absurd h hnot
  named hnot := absurd h hnot
  aligned hnot := absurd h hnot
  again ns hns := by
    rw [halign] at hns
    cases hns

/-- Values that are all converted have neither a reason to be refused nor an integer that does not
fit. -/
theorem alignsExactly_of_converted (halign : align values = .ok ns) (h : Common r values)
    (hall : List.Forall₂ (Converts r) values ns) : AlignsExactly values := by
  have hends {kind : FaultKind} : ¬StopsAs (align values) kind := halign ▸ not_stopsAs_ok
  have hfits : ¬Misfit values := by
    rw [h.misfit_iff]
    exact fun ⟨k, hk, hrep⟩ ↦ hrep (represents_of_forall₂_converts hall hk)
  exact {
    refused := iff_of_false hends h.not_refused
    overflow := fun _ ↦ iff_of_false hends (mt FirstMisfitIs.misfit hfits)
    unwritable := fun _ ↦ iff_of_false hends (mt FirstMisfitIs.misfit hfits)
    named := fun _ e he ↦ by
      rw [halign] at he
      cases he
    aligned := fun _ _ ↦ by
      refine ⟨r, ns, halign, hall, fun s hs ↦ (h.eq_of_occurs hs).symm, fun hnone ↦ ?_⟩
      exact not_not.mp fun hb ↦ hnone r (h.occurs hb)
    again := fun ms hms ↦ by
      rw [halign] at hms
      cases hms
      exact align_map_number h.signed (rep_eq_of_forall₂_converts hall) }

/-- An integer that overflows is the first one that does not fit. -/
theorem alignsExactly_of_overflow (halign : align values = .error e) (h : Common r values)
    (hk : FirstMisfit r k values) (hover : Overflows r k e) : AlignsExactly values := by
  have hstops {kind : FaultKind} : StopsAs (align values) kind ↔ Fault.overflowKind k = kind := by
    rw [halign, stopsAs_error, hover.kind_reported]
  have hb : r ≠ .unbounded := by
    rintro rfl
    exact hover.1 trivial
  exact {
    refused := iff_of_false (mt hstops.mp (overflowKind_ne_type k)) h.not_refused
    overflow := fun _ ↦ by
      rw [hstops, h.firstMisfitIs_iff hk, Fault.overflowKind]
      cases isLong k <;> simp
    unwritable := fun _ ↦ by
      rw [hstops, h.firstMisfitIs_iff hk, Fault.overflowKind]
      cases isLong k <;> simp
    named := fun _ e' he' ↦ by
      rw [halign] at he'
      cases he'
      exact ⟨r, k, h.occurs hb, hk, hover⟩
    aligned := fun _ hfits ↦ absurd (h.misfit_iff.mpr ⟨k, hk.mem⟩) hfits
    again := fun ns hns ↦ by
      rw [halign] at hns
      cases hns }

end Outcomes

/-- Any values are treated so. -/
theorem align_exactly (values : List Value) : AlignsExactly values := by
  have hcases := aligns values
  generalize halign : align values = answer at hcases
  cases hcases with
  | refused h hkind => exact alignsExactly_of_refused halign h hkind
  | converted h hall => exact alignsExactly_of_converted halign h hall
  | overflow h hk hover => exact alignsExactly_of_overflow halign h hk hover

/-- The text is refused, although the integer before it does not fit. -/
example : align [int 1000, ofCarrier (.fixed (.signed .w8)) ⟨5, by decide, by decide⟩, text "no"] =
    .error (.notNumeric "str") := rfl

/-- Next to a number of eight bits an integer that is too long to be written does not fit, and no
overflow is reported. -/
theorem align_int8_long :
    let values : List Value :=
      [ofCarrier (.fixed (.signed .w8)) ⟨1, by decide, by decide⟩, int (tenPow Text.digitLimit)]
    ¬Refused values ∧ Misfit values ∧ StopsAs (align values) .value := by
  have hlong := Text.isLong_tenPow
  generalize (tenPow Text.digitLimit : Int) = k at hlong ⊢
  intro values
  have hk : ¬(Rep.fixed (.signed .w8)).Represents k :=
    Rep.not_represents_of_isLong (Rep.fixed_ne_unbounded _) hlong
  have hfirst : FirstMisfit (.fixed (.signed .w8)) k values := .later nofun (.here hk)
  have hrep : commonRep values = .ok (.fixed (.signed .w8)) := rfl
  have hcommon := common_of_commonRep_eq_ok hrep
  refine ⟨hcommon.not_refused, hcommon.misfit_iff.mpr ⟨k, hfirst.mem⟩, ?_⟩
  rw [align_of_commonRep_eq_ok hrep]
  obtain ⟨ns, -, hall⟩ | ⟨j, e, hj, he, hover⟩ := mapM_intoNumber_cases hcommon.plainOr
  · exact absurd (represents_of_forall₂_converts hall hfirst.mem.1) hk
  · obtain rfl := hj.unique hfirst
    rw [he, stopsAs_error, hover.kind_reported, Fault.overflowKind, hlong]
    rfl

end Aliquot.Value
