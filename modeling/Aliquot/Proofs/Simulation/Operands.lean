import Aliquot.Proofs.Range
import Aliquot.Value.NumberTheory

/-!
# Operands of one bounded type

The operands of a computation stand for integers when each is a value of one bounded type or an
unbounded integer that the type represents. They are all brought to that type, and a computation
that follows its run on integers does so on such operands.
-/

namespace Aliquot

open CheckedInt

/-- A number of another representation is converted by way of its integer. -/
theorem Number.into_of_ne {r : Rep} {x : Number} (h : x.rep ≠ r) :
    x.into r = CheckedInt.ofInt x.toInt :=
  dif_neg h

/-- The failure is an overflow. -/
def Fault.IsOverflow (e : Fault) : Prop := e.kind = .failure .overflow

/-- An overflow of checked arithmetic is reported as one. -/
theorem Fault.isOverflow_failure {e : Failure} (h : e.IsOverflow) :
    (Fault.failure e).IsOverflow := by
  rw [Failure.IsOverflow] at h
  rw [IsOverflow, kind, h]

namespace Value

/-- The value stands for the integer `k` in a computation in the representation `r`. -/
inductive StandsFor (r : Rep) (k : Int) : Value → Prop where
  /-- A value of the representation. -/
  | own {x : r.Carrier} (h : Reads x k) : StandsFor r k (ofCarrier r x)
  /-- An unbounded integer that the representation can hold. -/
  | plain (h : r.Represents k) : StandsFor r k (int k)

/-- The call ends with a value of the representation that stands for `k`. -/
def Returns (r : Rep) (answer : Answer Value) (k : Int) : Prop :=
  ∃ z : r.Carrier, answer = .ok (ofCarrier r z) ∧ Reads z k

/-- A value that stands for an integer is a number with that integer. -/
theorem StandsFor.exists_number {r : Rep} {k : Int} {v : Value} (h : StandsFor r k v) :
    ∃ n : Number, v = number n ∧ n.toInt = k := by
  cases h with
  | @own x h => exact ⟨⟨r, x⟩, rfl, h⟩
  | plain _ => exact ⟨.unbounded k, rfl, rfl⟩

/-- The representation holds an integer that a value stands for. -/
theorem StandsFor.exists_ofInt {r : Rep} {k : Int} {v : Value} (h : StandsFor r k v) :
    ∃ x : r.Carrier, ofInt k = .ok x := by
  cases h with
  | @own x h => exact ⟨x, ofInt_eq_ok_iff.mpr h⟩
  | plain h => exact Rep.exists_ofInt_of_represents h

/-- The operands stand for the integers, and one of them at least has the representation `r`. -/
structure Operands (r : Rep) (operands : List Value) (ints : List Int) : Prop where
  standsFor : List.Forall₂ (StandsFor r) ints operands
  exists_own : ∃ x : r.Carrier, ofCarrier r x ∈ operands

variable {r : Rep}

/-- An unbounded integer does not decide the representation. -/
theorem joinRep_int (found : Rep) (k : Int) : joinRep found (int k) = .ok found := rfl

/-- A value of a bounded type with a sign decides it, where nothing else was found before. -/
theorem joinRep_ofCarrier {found : Rep} (hb : r ≠ .unbounded) (hs : r.isUnsigned = false)
    (hf : found = .unbounded ∨ found = r) (x : r.Carrier) :
    joinRep found (ofCarrier r x) = .ok r := by
  have hm : ¬(found ≠ .unbounded ∧ found ≠ r) := by
    rintro ⟨h₁, h₂⟩
    exact hf.elim h₁ h₂
  simp only [joinRep, ofCarrier, if_neg hb, if_neg hm, hs, Bool.false_eq_true, if_false]

/-- Once the representation is found, operands that stand for integers do not change it. -/
theorem foldlM_joinRep_of_found (hb : r ≠ .unbounded) (hs : r.isUnsigned = false)
    {ints : List Int} {operands : List Value} (h : List.Forall₂ (StandsFor r) ints operands) :
    operands.foldlM joinRep r = .ok r := by
  induction h with
  | nil => rfl
  | cons hv _ ih =>
    rw [List.foldlM_cons]
    cases hv with
    | own => rw [joinRep_ofCarrier hb hs (.inr rfl)]; exact ih
    | plain => rw [joinRep_int]; exact ih

/-- The representation of operands that stand for integers is found, wherever its value stands. -/
theorem commonRep_eq (hb : r ≠ .unbounded) (hs : r.isUnsigned = false) {ints : List Int}
    {operands : List Value} (h : Operands r operands ints) : commonRep operands = .ok r := by
  obtain ⟨h, x, hx⟩ := h
  unfold commonRep
  induction h with
  | nil => cases hx
  | cons hv hrest ih =>
    rw [List.foldlM_cons]
    cases hv with
    | own =>
      rw [joinRep_ofCarrier hb hs (.inl rfl)]
      exact foldlM_joinRep_of_found hb hs hrest
    | plain =>
      rw [joinRep_int]
      cases hx with
      | head => exact absurd rfl hb
      | tail _ hx => exact ih hx

/-- An operand goes into the representation as its integer. -/
theorem StandsFor.into (hb : r ≠ .unbounded) {k : Int} {v : Value} (h : StandsFor r k v) :
    ∃ x : r.Carrier, v.into r = .ok x ∧ Reads x k := by
  cases h with
  | @own x h =>
    refine ⟨x, ?_, h⟩
    change ((Number.mk r x).into r : Checked r.Carrier).mapError Fault.failure = _
    rw [Number.into_self ⟨r, x⟩]
    rfl
  | plain h =>
    obtain ⟨x, hx⟩ := Rep.exists_ofInt_of_represents h
    refine ⟨x, ?_, toInt_of_ofInt_eq_ok hx⟩
    change ((Number.unbounded k).into r : Checked r.Carrier).mapError Fault.failure = _
    rw [Number.into_of_ne (x := .unbounded k) (Ne.symm hb)]
    change (ofInt k : Checked r.Carrier).mapError Fault.failure = _
    rw [hx]
    rfl

variable {β : Type} {R : β → β → Prop}

/-- A computation on two operands follows its run on the integers that they stand for. -/
theorem onPair_follows (hb : r ≠ .unbounded) (hs : r.isUnsigned = false)
    {f : (r : Rep) → r.Carrier → r.Carrier → Checked β} {u v : Value} {j k : Int}
    (h : Operands r [u, v] [j, k])
    (hf : ∀ x y : r.Carrier, Reads x j → Reads y k → Simulates R (f r x y) (f .unbounded j k)) :
    Follows Fault.IsOverflow R (onPair f u v) (onPair f (int j) (int k)) := by
  have hst := h.standsFor
  simp only [List.forall₂_cons, List.Forall₂.nil, and_true] at hst
  obtain ⟨x, hx, hxj⟩ := hst.1.into hb
  obtain ⟨y, hy, hyk⟩ := hst.2.into hb
  have hl : onPair f u v = (f r x y).mapError .failure := by
    unfold onPair
    rw [commonRep_eq hb hs h]
    change (u.into r >>= fun x ↦ v.into r >>= fun y ↦ (f r x y).mapError Fault.failure) = _
    rw [hx, hy]
    rfl
  rw [hl]
  exact (hf x y hxj hyk).mapError fun _ ↦ Fault.isOverflow_failure

/-- A computation on three operands follows its run on the integers that they stand for. -/
theorem onTriple_follows (hb : r ≠ .unbounded) (hs : r.isUnsigned = false)
    {f : (r : Rep) → r.Carrier → r.Carrier → r.Carrier → Checked β} {u v w : Value} {i j k : Int}
    (h : Operands r [u, v, w] [i, j, k])
    (hf : ∀ x y z : r.Carrier, Reads x i → Reads y j → Reads z k →
      Simulates R (f r x y z) (f .unbounded i j k)) :
    Follows Fault.IsOverflow R (onTriple f u v w) (onTriple f (int i) (int j) (int k)) := by
  have hst := h.standsFor
  simp only [List.forall₂_cons, List.Forall₂.nil, and_true] at hst
  obtain ⟨x, hx, hxi⟩ := hst.1.into hb
  obtain ⟨y, hy, hyj⟩ := hst.2.1.into hb
  obtain ⟨z, hz, hzk⟩ := hst.2.2.into hb
  have hl : onTriple f u v w = (f r x y z).mapError .failure := by
    unfold onTriple
    rw [commonRep_eq hb hs h]
    change (u.into r >>= fun x ↦ v.into r >>= fun y ↦ w.into r >>= fun z ↦
      (f r x y z).mapError Fault.failure) = _
    rw [hx, hy, hz]
    rfl
  rw [hl]
  exact (hf x y z hxi hyj hzk).mapError fun _ ↦ Fault.isOverflow_failure

end Value

end Aliquot
