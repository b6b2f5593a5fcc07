import Aliquot.Proofs.Audit.Checks
import Aliquot.Proofs.Report.Algorithms
import Aliquot.Proofs.Simulation.Diophantine
import Aliquot.Proofs.Simulation.Operands
import Aliquot.Proofs.Simulation.Power
import Aliquot.Value.Audit

/-!
# Audits find no wrong value

A comparison in a bounded type either is the comparison on integers or overflows. With sound
references an audit therefore disagrees only where an algorithm overflows and on the inverse modulo
one. It ends in every bounded type; on unbounded integers it stops when the text of a refusal has to
name an integer that is too long to be written.
-/

namespace Aliquot

open CheckedInt
open Text (isLong)

namespace Check

/-- A comparison in a bounded type is the one on integers, or it overflows. -/
def Repeats (t t₀ : Answer Check) : Prop := t = t₀ ∨ ∃ c, t = .ok c ∧ c.Overflows

/-- The comparison of a run that simulates another one, and whose failures can be written, repeats
its comparison. -/
theorem ofRun_repeats {β γ : Type} {name : String} {run run₀ : Checked β} {reference? : Option γ}
    {agree : β → γ → Bool} {show₁ : β → Document} {show₂ : γ → Document}
    (h : Simulates Eq run run₀) (hw : WritesFailures run) :
    Repeats (ofRun name run reference? agree show₁ show₂)
      (ofRun name run₀ reference? agree show₁ show₂) := by
  obtain rfl | h := h.eq_or_overflow
  · exact .inl rfl
  · exact .inr (ofRun_overflow (hw.failsFor h))

/-- The comparison finds no wrong value modulo `m`: it disagrees only for an overflow and for the
inverse modulo one, and it never finds an argument refused. -/
structure IsFaithful (c : Check) (m : Int) : Prop where
  agrees_iff : c.agrees = true ↔
    ¬(c.outcome = .error .overflow ∨ c.name = "inverse_mod" ∧ m = 1)
  not_badArgument : c.outcome ≠ .error .badArgument

variable {c : Check} {name : String} {m : Int}

/-- An overflow is no wrong value. -/
theorem Overflows.isFaithful (h : c.Overflows) : c.IsFaithful m where
  agrees_iff := by simp [h.agrees, h.outcome]
  not_badArgument := by simp [h.outcome]

/-- A confirmation is no wrong value. -/
theorem Confirms.isFaithful (h : c.Confirms name) (hn : name ≠ "inverse_mod" ∨ m ≠ 1) :
    c.IsFaithful m where
  agrees_iff := by
    refine iff_of_true h.agrees ?_
    rintro (ho | ⟨hi, hm⟩)
    · cases h.noSolution _ ho
    · exact hn.elim (· (h.name_eq.symm.trans hi)) (· hm)
  not_badArgument hb := nomatch h.noSolution _ hb

end Check

namespace Audit

private theorem map_eq_map {β γ δ : Type} {R : β → γ → Prop} {f : β → δ} {g : γ → δ} {xs : List β}
    {ys : List γ} (h : List.Forall₂ R xs ys) (hf : ∀ x y, R x y → f x = g y) :
    xs.map f = ys.map g := by
  induction h with
  | nil => rfl
  | cons hxy _ ih => rw [List.map_cons, List.map_cons, hf _ _ hxy, ih]

/-- Comparisons that can be made are listed in their order; otherwise one of them stops the audit as
its failure cannot be written. -/
theorem mapM_id_cases {P : Check → Prop} {ts : List (Answer Check)}
    (h : ∀ t ∈ ts, (∃ c, t = .ok c ∧ P c) ∨ IsUnwritable t) :
    (∃ cs, ts.mapM id = .ok cs ∧ ts = cs.map .ok ∧ ∀ c ∈ cs, P c) ∨
      IsUnwritable (ts.mapM id) ∧ ∃ t ∈ ts, IsUnwritable t := by
  induction ts with
  | nil => exact .inl ⟨[], rfl, rfl, fun c hc ↦ nomatch hc⟩
  | cons t ts ih =>
    rw [List.forall_mem_cons] at h
    rw [List.mapM_cons]
    obtain ⟨c, rfl, hc⟩ | ht := h.1
    · obtain ⟨cs, hcs, rfl, hP⟩ | ⟨hstops, u, hu, hunwritable⟩ := ih h.2
      · refine .inl ⟨c :: cs, ?_, rfl, List.forall_mem_cons.mpr ⟨hc, hP⟩⟩
        rw [hcs]
        rfl
      · exact .inr ⟨hstops.bind _, u, List.mem_cons_of_mem _ hu, hunwritable⟩
    · exact .inr ⟨ht.bind _, t, List.mem_cons_self, ht⟩

/-- Comparisons none of which stops the audit are all made. -/
theorem exists_mapM_id {P : Check → Prop} {ts : List (Answer Check)}
    (h : ∀ t ∈ ts, ∃ c, t = .ok c ∧ P c) :
    ∃ cs, ts.mapM id = .ok cs ∧ ts = cs.map .ok ∧ ∀ c ∈ cs, P c := by
  obtain hcs | ⟨-, t, ht, e, he, -⟩ := mapM_id_cases fun t ht ↦ .inl (h t ht)
  · exact hcs
  · obtain ⟨c, rfl, -⟩ := h t ht
    cases he

variable {α : Type} [CheckedInt α] {x y z : α} {a b m : Int} {ref : References}

/-- The combination simulates that of the integers. -/
theorem combination_simulates (hx : Reads x a) (hy : Reads y b) :
    Simulates Eq (combination x y) (combination a b) := by
  apply (Euclid.xgcd_simulates hx hy).bind
  intro _ _ _ h
  exact .value (by rw [h.value, h.coeff₁, h.coeff₂]; rfl)

/-- The first pairs simulate those of the integers. -/
theorem firstPairs_simulates (hx : Reads x a) (hy : Reads y b) (hz : Reads z m) :
    Simulates Eq (firstPairs x y z) (firstPairs a b m) := by
  apply (Diophantine.solve_simulates hx hy hz).bind
  intro _ _ _ h
  apply (h.1.take 0 2).bind
  intro _ _ _ hp
  exact .value (map_eq_map hp fun p q hpq ↦ Prod.ext hpq.1 hpq.2)

/-- The power simulates that of the integers. -/
theorem magnitudePower_simulates (hx : Reads x a) (hy : Reads y b) (hz : Reads z m) :
    Simulates Eq (magnitudePower x y z) (magnitudePower a b m) := by
  apply hy.abs.bind
  intro _ _ _ hn
  apply (powMod_simulates hx hn hz).bind
  intro _ _ _ hk
  exact .value hk

section Failures

variable (hα : HasShortIntegers α) (x y z : α)
include hα

/-- The failures of the combination can be written. -/
theorem combination_writesFailures : WritesFailures (combination x y) :=
  (Euclid.xgcd_writesFailures hα x y).bind fun _ _ ↦ writesFailures_ok _

/-- Those of the first pairs can be written. -/
theorem firstPairs_writesFailures : WritesFailures (firstPairs x y z) := by
  apply (Diophantine.solve_writesFailures hα x y z).bind
  intro s _
  apply (SolutionFamily.take_writesFailures hα s.1 ?_).bind
  · intro _ _
    exact writesFailures_ok _
  · intro i hi
    have := twoPow_pos 256
    omega

/-- Those of the power can be written. -/
theorem magnitudePower_writesFailures : WritesFailures (magnitudePower x y z) := by
  apply (hα.abs y).bind
  intro n _
  exact (powMod_writesFailures hα x n z).bind fun _ _ ↦ writesFailures_ok _

end Failures

/-- The comparisons in a type of short integers repeat those on integers. -/
theorem comparisons_repeat (hα : HasShortIntegers α) (hx : Reads x a) (hy : Reads y b)
    (hz : Reads z m) :
    List.Forall₂ Check.Repeats (comparisons ref a b m x y z) (comparisons ref a b m a b m) := by
  have hcombination : Check.Repeats (checkCombination ref a b x y) (checkCombination ref a b a b) :=
    Check.ofRun_repeats (combination_simulates hx hy) (combination_writesFailures hα x y)
  have hgcd : Check.Repeats (checkGcd ref a b x y) (checkGcd ref a b a b) :=
    Check.ofRun_repeats ((Euclid.gcd_simulates hx hy).map fun _ _ h ↦ h)
      (Euclid.gcd_writesFailures hα x y).map
  have hlcm : Check.Repeats (checkLcm ref a b x y) (checkLcm ref a b a b) :=
    Check.ofRun_repeats ((Euclid.lcm_simulates hx hy).map fun _ _ h ↦ h)
      (Euclid.lcm_writesFailures hα x y).map
  have hdiophantine :
      Check.Repeats (checkDiophantine ref a b m x y z) (checkDiophantine ref a b m a b m) :=
    Check.ofRun_repeats (firstPairs_simulates hx hy hz) (firstPairs_writesFailures hα x y z)
  have hcongruence :
      Check.Repeats (checkCongruence ref a b m x y z) (checkCongruence ref a b m a b m) :=
    Check.ofRun_repeats
      ((Congruence.solve_simulates hx hy hz).map fun _ _ h ↦ map_eq_map h fun _ _ hxy ↦ hxy)
      (Congruence.solve_writesFailures hα x y z).map
  have hinverse : Check.Repeats (checkInverse ref a m x z) (checkInverse ref a m a m) :=
    Check.ofRun_repeats ((Congruence.inverse_simulates hx hz).map fun _ _ h ↦ h)
      (Congruence.inverse_writesFailures hα x z).map
  have hpower : Check.Repeats (checkPower a b m x y z) (checkPower a b m a b m) :=
    Check.ofRun_repeats (magnitudePower_simulates hx hy hz) (magnitudePower_writesFailures hα x y z)
  unfold comparisons
  refine List.rel_append (List.rel_append (List.rel_append ?_ ?_) ?_) ?_
  · exact .cons hcombination (.cons hgcd .nil)
  · split
    · exact .cons hlcm .nil
    · exact .nil
  · split
    · exact .cons hdiophantine .nil
    · exact .nil
  · split
    · exact .cons hcongruence (.cons hinverse (.cons hpower .nil))
    · exact .nil

/-- The exceptions on integers: the inverse modulo one, and more residues than can be counted. -/
def IsException (a b m : Int) : Prop :=
  m = 1 ∨ 0 < m ∧ Congruence.maxCount < a.gcd m ∧ (a.gcd m : Int) ∣ b

/-- A refusal on integers that has no text: an equation, an inverse or a congruence without a
solution, one of whose numbers is too long to be written. -/
inductive Unwritable (a b m : Int) : Prop where
  | equation (ha : a ≠ 0) (hb : b ≠ 0) (hm : ¬(a.gcd b : Int) ∣ m)
    (h : (isLong a || isLong b || isLong m) = true)
  | inverse (hm : 0 < m) (hg : a.gcd m ≠ 1) (h : (isLong a || isLong m) = true)
  | residues (hm : 0 < m) (hb : ¬(a.gcd m : Int) ∣ b)
    (h : (isLong a || isLong m || isLong b) = true)

/-- Short integers can be written. -/
theorem not_unwritable (ha : isLong a = false) (hb : isLong b = false) (hm : isLong m = false) :
    ¬Unwritable a b m := by
  rintro (⟨-, -, -, h⟩ | ⟨-, -, h⟩ | ⟨-, -, h⟩) <;> simp [ha, hb, hm] at h

/-- A modulus with a number of residues that is too long to be written is too long itself, and has
no inverse to offer. -/
theorem Unwritable.of_count (hm : 0 < m) (hg : Congruence.maxCount < a.gcd m)
    (h : isLong (a.gcd m) = true) : Unwritable a b m := by
  have hpos : 0 < Congruence.maxCount := by decide
  have hle : (a.gcd m : Int) ≤ m := Int.le_of_dvd hm (Int.gcd_dvd_right ..)
  have hlong : isLong m = true := Text.isLong_of_natAbs_le (by omega) h
  exact .inverse hm (by omega) (by simp [hlong])

/-- The comparison on integers finds no wrong value, and agrees but for an exception. -/
def Passes (a b m : Int) (t : Answer Check) : Prop :=
  ∃ c, t = .ok c ∧ c.IsFaithful m ∧ (¬IsException a b m → c.agrees = true)

/-- The comparison on integers passes, or it stops as its refusal has no text. -/
def PassesOrStops (a b m : Int) (t : Answer Check) : Prop :=
  Passes a b m t ∨ Unwritable a b m ∧ IsUnwritable t

/-- A confirmation passes. -/
theorem passes_of_confirms {t : Answer Check} {name : String}
    (h : ∃ c, t = .ok c ∧ c.Confirms name) (hn : name ≠ "inverse_mod" ∨ m ≠ 1) :
    Passes a b m t := by
  obtain ⟨c, hc, h⟩ := h
  exact ⟨c, hc, h.isFaithful hn, fun _ ↦ h.agrees⟩

/-- A comparison that passes where there is a solution or the numbers are short, and that stops where
neither is so, does one of the two. -/
theorem passesOrStops_of {t : Answer Check} {solvable : Prop} {long : Bool}
    (hpasses : solvable ∨ long = false → Passes a b m t)
    (hstops : ¬solvable → long = true → Unwritable a b m ∧ IsUnwritable t) :
    PassesOrStops a b m t := by
  by_cases h : solvable ∨ long = false
  · exact .inl (hpasses h)
  · rw [not_or, Bool.not_eq_false] at h
    exact .inr (hstops h.1 h.2)

/-- The pairs pass unless they have to be refused in writing. -/
theorem checkDiophantine_passesOrStops (hr : ref.Sound) (ha : a ≠ 0) (hb : b ≠ 0) :
    PassesOrStops a b m (checkDiophantine ref a b m a b m) := by
  apply passesOrStops_of
  · intro hw
    exact passes_of_confirms (checkDiophantine_confirms hr ha hb hw) (.inl (by decide))
  · intro hm hl
    exact ⟨.equation ha hb hm hl, checkDiophantine_isUnwritable ref hm hl⟩

/-- So do the residues, whether they can be counted or not. -/
theorem checkCongruence_passesOrStops (hr : ref.Sound) (hm : 0 < m) :
    PassesOrStops a b m (checkCongruence ref a b m a b m) := by
  by_cases h : (a.gcd m : Int) ∣ b ∧ Congruence.maxCount < a.gcd m
  · cases hl : isLong (a.gcd m) with
    | false =>
      obtain ⟨c, hc, ho⟩ := checkCongruence_overflows ref hm h.1 h.2 hl
      exact .inl ⟨c, hc, ho.isFaithful, fun he ↦ absurd (.inr ⟨hm, h.2, h.1⟩) he⟩
    | true =>
      exact .inr ⟨.of_count hm h.2 hl, checkCongruence_isUnwritable_of_count ref hm h.1 h.2 hl⟩
  · apply passesOrStops_of
    · intro hw
      exact passes_of_confirms (checkCongruence_confirms hr hm h hw) (.inl (by decide))
    · intro hb hl
      exact ⟨.residues hm hb hl, checkCongruence_isUnwritable ref hm hb hl⟩

/-- So does the inverse, modulo one as a disagreement. -/
theorem checkInverse_passesOrStops (hr : ref.Sound) (hm : 0 < m) :
    PassesOrStops a b m (checkInverse ref a m a m) := by
  by_cases h : m = 1
  · rw [h]
    obtain ⟨c, k, hc, hn, ha, ho⟩ := checkInverse_one hr a
    refine .inl ⟨c, hc, ⟨?_, ?_⟩, fun he ↦ absurd (.inl rfl) he⟩
    · simp [ha, hn]
    · simp [ho]
  · apply passesOrStops_of
    · intro hw
      exact passes_of_confirms (checkInverse_confirms hr hm h hw) (.inr h)
    · intro hg hl
      exact ⟨.inverse hm hg hl, checkInverse_isUnwritable ref hm hg hl⟩

/-- No comparison on integers finds a wrong value. -/
theorem comparisons_int_passOrStop (hr : ref.Sound) :
    ∀ t ∈ comparisons ref a b m a b m, PassesOrStops a b m t := by
  unfold comparisons
  simp only [List.forall_mem_append]
  refine ⟨⟨⟨?_, ?_⟩, ?_⟩, ?_⟩
  · rw [List.forall_mem_cons, List.forall_mem_singleton]
    constructor
    · exact .inl (passes_of_confirms (checkCombination_confirms hr a b) (.inl (by decide)))
    · exact .inl (passes_of_confirms (checkGcd_confirms hr a b) (.inl (by decide)))
  · split
    · next h =>
      rw [List.forall_mem_singleton]
      exact .inl (passes_of_confirms (checkLcm_confirms hr h) (.inl (by decide)))
    · exact List.forall_mem_nil _
  · split
    · next h =>
      rw [List.forall_mem_singleton]
      exact checkDiophantine_passesOrStops hr h.1 h.2
    · exact List.forall_mem_nil _
  · split
    · next hm =>
      rw [List.forall_mem_cons, List.forall_mem_cons, List.forall_mem_singleton]
      refine ⟨checkCongruence_passesOrStops hr hm, checkInverse_passesOrStops hr hm, ?_⟩
      exact .inl (passes_of_confirms (checkPower_confirms hm) (.inl (by decide)))
    · exact List.forall_mem_nil _

/-- The equation is compared for coefficients that are not zero. -/
theorem mem_comparisons_of_ne_zero (ha : a ≠ 0) (hb : b ≠ 0) :
    checkDiophantine ref a b m x y z ∈ comparisons ref a b m x y z := by
  unfold comparisons
  rw [if_pos (And.intro ha hb)]
  simp

/-- The comparisons that depend on the modulus are made for a positive one. -/
theorem mem_comparisons_of_pos (hm : 0 < m) :
    checkCongruence ref a b m x y z ∈ comparisons ref a b m x y z ∧
      checkInverse ref a m x z ∈ comparisons ref a b m x y z := by
  unfold comparisons
  rw [if_pos hm]
  simp

/-- A refusal that has no text stops one of the comparisons. -/
theorem Unwritable.exists_mem (ref : References) (h : Unwritable a b m) :
    ∃ t ∈ comparisons ref a b m a b m, IsUnwritable t := by
  cases h with
  | equation ha hb hm hl =>
    exact ⟨_, mem_comparisons_of_ne_zero ha hb, checkDiophantine_isUnwritable ref hm hl⟩
  | inverse hm hg hl =>
    exact ⟨_, (mem_comparisons_of_pos hm).2, checkInverse_isUnwritable ref hm hg hl⟩
  | residues hm hb hl =>
    exact ⟨_, (mem_comparisons_of_pos hm).1, checkCongruence_isUnwritable ref hm hb hl⟩

/-- Some comparison disagrees for each of the exceptions. -/
theorem IsException.exists_mem (hr : ref.Sound) (hu : ¬Unwritable a b m) (h : IsException a b m) :
    ∃ c, .ok c ∈ comparisons ref a b m a b m ∧ c.agrees = false := by
  obtain rfl | ⟨hm, hg, hb⟩ := h
  · obtain ⟨c, -, hc, -, ha, -⟩ := checkInverse_one hr a
    exact ⟨c, hc ▸ (mem_comparisons_of_pos (z := (1 : Int)) one_pos).2, ha⟩
  · have hl : isLong (a.gcd m) = false := Bool.not_eq_true _ ▸ mt (.of_count hm hg) hu
    obtain ⟨c, hc, ho⟩ := checkCongruence_overflows ref hm hb hg hl
    exact ⟨c, hc ▸ (mem_comparisons_of_pos hm).1, ho.agrees⟩

/-- The comparisons on integers are all made unless a refusal has no text. None finds a wrong value,
and they agree but for the exceptions. -/
theorem exists_checkAll_int (hr : ref.Sound) (hu : ¬Unwritable a b m) :
    ∃ cs, checkAll ref a b m a b m = .ok cs ∧ (∀ c ∈ cs, c.IsFaithful m) ∧
      (cs.all Check.agrees = true ↔ ¬IsException a b m) := by
  have hp : ∀ t ∈ comparisons ref a b m a b m, Passes a b m t := fun t ht ↦
    (comparisons_int_passOrStop hr t ht).resolve_right fun h ↦ hu h.1
  obtain ⟨cs, hcs, hmap, hc⟩ := exists_mapM_id hp
  refine ⟨cs, hcs, fun c h ↦ (hc c h).1, ?_⟩
  rw [List.all_eq_true]
  constructor
  · intro hall hex
    obtain ⟨d, hd, ha⟩ := hex.exists_mem hr hu
    rw [hmap, List.mem_map] at hd
    obtain ⟨c, h, heq⟩ := hd
    rw [← Except.ok.inj heq, hall c h] at ha
    cases ha
  · exact fun hex c h ↦ (hc c h).2 hex

/-- A refusal that has no text stops them. -/
theorem Unwritable.checkAll (hr : ref.Sound) (h : Unwritable a b m) :
    IsUnwritable (checkAll ref a b m a b m) := by
  have hcases := mapM_id_cases fun t ht ↦
    (comparisons_int_passOrStop (a := a) (b := b) (m := m) hr t ht).imp_right And.right
  obtain ⟨cs, -, hmap, -⟩ | ⟨hstops, -⟩ := hcases
  · obtain ⟨t, ht, e, he, -⟩ := h.exists_mem ref
    rw [hmap, List.mem_map] at ht
    obtain ⟨c, -, rfl⟩ := ht
    cases he
  · exact hstops

/-- What repeats comparisons that pass finds no wrong value either. -/
theorem isFaithful_of_repeats {ts ts₀ : List (Answer Check)}
    (h : List.Forall₂ Check.Repeats ts ts₀) (hp : ∀ t ∈ ts₀, Passes a b m t) :
    ∀ t ∈ ts, ∃ c, t = .ok c ∧ c.IsFaithful m := by
  induction h with
  | nil => exact List.forall_mem_nil _
  | cons ht _ ih =>
    rw [List.forall_mem_cons] at hp ⊢
    refine ⟨?_, ih hp.2⟩
    obtain rfl | ⟨c, hc, ho⟩ := ht
    · obtain ⟨c, hc, h, -⟩ := hp.1
      exact ⟨c, hc, h⟩
    · exact ⟨c, hc, ho.isFaithful⟩

/-- Comparisons in a type of short integers are all made, and none finds a wrong value. -/
theorem exists_checkAll (hr : ref.Sound) (hα : HasShortIntegers α) (hx : Reads x a) (hy : Reads y b)
    (hz : Reads z m) :
    ∃ cs, checkAll ref a b m x y z = .ok cs ∧ ∀ c ∈ cs, c.IsFaithful m := by
  have hu : ¬Unwritable a b m :=
    not_unwritable (hx ▸ hα.isLong_eq_false x) (hy ▸ hα.isLong_eq_false y)
      (hz ▸ hα.isLong_eq_false z)
  have hp := isFaithful_of_repeats (comparisons_repeat hα hx hy hz) fun t ht ↦
    (comparisons_int_passOrStop hr t ht).resolve_right fun h ↦ hu h.1
  obtain ⟨cs, hcs, -, h⟩ := exists_mapM_id hp
  exact ⟨cs, hcs, h⟩

section Run

variable {r : Rep} (ha : r.Represents a) (hb : r.Represents b) (hm : r.Represents m)
include ha hb hm

/-- An audit of integers that a type represents makes the comparisons on their values. -/
theorem exists_run_eq (ref : References) :
    ∃ x y z : r.Carrier, Reads x a ∧ Reads y b ∧ Reads z m ∧
      run ref r a b m = checkAll ref a b m x y z >>= fun cs ↦ .ok ⟨a, b, m, r.typeName, cs⟩ := by
  obtain ⟨x, hx⟩ := Rep.exists_ofInt_of_represents ha
  obtain ⟨y, hy⟩ := Rep.exists_ofInt_of_represents hb
  obtain ⟨z, hz⟩ := Rep.exists_ofInt_of_represents hm
  refine ⟨x, y, z, toInt_of_ofInt_eq_ok hx, toInt_of_ofInt_eq_ok hy, toInt_of_ofInt_eq_ok hz, ?_⟩
  rw [run, hx, hy, hz]
  rfl

/-- It ends unless it is one of unbounded integers with a refusal that has no text. No comparison
finds a wrong value, and on unbounded integers they agree but for the exceptions. -/
theorem exists_run (hr : ref.Sound) (hu : ¬(r = .unbounded ∧ Unwritable a b m)) :
    ∃ audit, run ref r a b m = .ok audit ∧ (∀ c ∈ audit.checks, c.IsFaithful m) ∧
      (r = .unbounded → (audit.allAgree = true ↔ ¬IsException a b m)) := by
  obtain ⟨x, y, z, hx, hy, hz, hrun⟩ := exists_run_eq ha hb hm ref
  by_cases hbounded : r = .unbounded
  · subst hbounded
    obtain rfl : x = a := hx
    obtain rfl : y = b := hy
    obtain rfl : z = m := hz
    obtain ⟨cs, hcs, hf, hall⟩ := exists_checkAll_int hr fun h ↦ hu ⟨rfl, h⟩
    rw [hcs] at hrun
    exact ⟨_, hrun, hf, fun _ ↦ hall⟩
  · obtain ⟨cs, hcs, hf⟩ := exists_checkAll hr (Rep.hasShortIntegers hbounded) hx hy hz
    rw [hcs] at hrun
    exact ⟨_, hrun, hf, fun h ↦ absurd h hbounded⟩

end Run

/-- An audit of unbounded integers stops at a refusal that has no text. -/
theorem Unwritable.run (hr : ref.Sound) (h : Unwritable a b m) :
    IsUnwritable (run ref .unbounded a b m) :=
  (h.checkAll hr).bind _

end Audit

namespace Value

/-- An audit in a type with a sign is the one of its numbers. -/
theorem auditWith_of_signed (ref : References) {r : Rep} (hs : r.isUnsigned = false) (a b m : Int) :
    auditWith ref (.number r) a b m = Audit.run ref r a b m := by
  simp only [auditWith, hs]
  rfl

/-- An audit of integers that a type represents ends, unless it is one of unbounded integers with a
refusal that has no text, where it stops. Each of its comparisons agrees unless the algorithm
overflowed or it is that of the inverse modulo one, and no argument is refused. On unbounded
integers all agree unless the modulus is one or there are more residues than can be counted. -/
theorem auditWith_finds_no_wrong_value {ref : References} (hr : ref.Sound) {r : Rep}
    (hs : r.isUnsigned = false) {a b m : Int} (ha : r.Represents a) (hb : r.Represents b)
    (hm : r.Represents m) :
    (StopsAs (auditWith ref (.number r) a b m) .value ↔ r = .unbounded ∧ Audit.Unwritable a b m) ∧
    (¬(r = .unbounded ∧ Audit.Unwritable a b m) →
      ∃ audit, auditWith ref (.number r) a b m = .ok audit ∧
        (∀ c ∈ audit.checks, (c.agrees = true ↔
            ¬(c.outcome = .error .overflow ∨ c.name = "inverse_mod" ∧ m = 1)) ∧
          c.outcome ≠ .error .badArgument) ∧
        (r = .unbounded → (audit.allAgree = true ↔
          m ≠ 1 ∧ ¬(0 < m ∧ (2 ^ 31 - 1 : Int) < a.gcd m ∧ (a.gcd m : Int) ∣ b)))) := by
  rw [auditWith_of_signed ref hs]
  refine ⟨⟨fun h ↦ ?_, ?_⟩, fun hu ↦ ?_⟩
  · by_contra hu
    obtain ⟨audit, hrun, -⟩ := Audit.exists_run ha hb hm hr hu
    exact not_stopsAs_ok (hrun ▸ h)
  · rintro ⟨rfl, hu⟩
    exact (hu.run hr).stopsAs
  · obtain ⟨audit, hrun, hf, hall⟩ := Audit.exists_run ha hb hm hr hu
    refine ⟨audit, hrun, fun c hc ↦ ⟨(hf c hc).agrees_iff, (hf c hc).not_badArgument⟩, fun h ↦ ?_⟩
    rw [hall h, Audit.IsException, not_or]
    rfl

/-- In eight bits an audit of 36, -24 and 6 ends without a wrong value. -/
theorem auditWith_int8 :
    let r := Rep.fixed (.signed .w8)
    References.textbook.Sound ∧ r.isUnsigned = false ∧ r.Represents 36 ∧ r.Represents (-24) ∧
      r.Represents 6 ∧ ∃ audit, auditWith .textbook (.number r) 36 (-24) 6 = .ok audit ∧
        ∀ c ∈ audit.checks, (c.agrees = true ↔
          ¬(c.outcome = .error .overflow ∨ c.name = "inverse_mod" ∧ (6 : Int) = 1)) ∧
          c.outcome ≠ .error .badArgument := by
  intro r
  have ha : Format.Represents (.signed .w8) 36 := by decide
  have hb : Format.Represents (.signed .w8) (-24) := by decide
  have hm : Format.Represents (.signed .w8) 6 := by decide
  obtain ⟨-, hends⟩ :=
    auditWith_finds_no_wrong_value References.textbook_sound (r := r) rfl ha hb hm
  obtain ⟨audit, hrun, h, -⟩ := hends fun h ↦ nomatch h.1
  exact ⟨References.textbook_sound, rfl, ha, hb, hm, audit, hrun, h⟩

/-- The numbers of an equation of even coefficients with an odd right side are too long to be
written, and the audit stops. -/
theorem audit_long_stops :
    StopsAs (audit (.number .unbounded) (2 * tenPow Text.digitLimit) 2 1) .value := by
  have hlong := Text.isLong_tenPow
  generalize (tenPow Text.digitLimit : Int) = k at hlong ⊢
  have hk : k ≠ 0 := by
    rintro rfl
    simp at hlong
  have hodd : ¬((2 * k).gcd 2 : Int) ∣ 1 := fun h ↦ by
    have : (2 : Int) ∣ 1 := (Int.dvd_coe_gcd ⟨k, rfl⟩ (dvd_refl 2)).trans h
    omega
  have hl : isLong (2 * k) = true := Text.isLong_of_natAbs_le (by omega) hlong
  have hu : Audit.Unwritable (2 * k) 2 1 :=
    .equation (by omega) (by decide) hodd (by rw [hl]; rfl)
  rw [audit, auditWith_of_signed .textbook rfl]
  exact (hu.run References.textbook_sound).stopsAs

end Value

end Aliquot
