import Aliquot.Proofs.SignMagnitude.Reading

/-!
# Malformed texts of signed magnitudes

A text denotes an integer when it is a numeral apart from a minus in front and carries no second
sign. Reading takes one minus off and lets the rest have a sign of its own, so there are texts that
are not read as what they denote: with a minus in front, those whose rest has a sign behind blanks
or a plus; without one, those of negative integers in the range, whose minus stands behind blanks.
-/

namespace Aliquot

namespace Text

/-- Whether a minus stands in front. -/
def startsWithMinus (text : String) : Bool := (splitMinus text.toList).1

/-- The text without the minus in front, if there is one. -/
def afterMinus (text : String) : String := String.ofList (splitMinus text.toList).2

/-- The number of signs. -/
def countSigns (text : String) : Nat := text.toList.countP isSign

/-- The text is empty, or carries two signs, or is no numeral apart from a minus in front. -/
def IsMalformed (limit? : Option Nat) (text : String) (base : Int) : Prop :=
  text = "" ∨ 2 ≤ countSigns text ∨ ∀ m, readInteger limit? (afterMinus text) base ≠ .ok m

/-- The text is well-formed and denotes the integer `k`. -/
def Denotes (limit? : Option Nat) (text : String) (base k : Int) : Prop :=
  ¬IsMalformed limit? text base ∧
    ∃ m, readInteger limit? (afterMinus text) base = .ok m ∧
      k = if startsWithMinus text then -m else m

variable {limit? : Option Nat} {text : String} {base m : Int}

/-- The minus in front is one of the signs. -/
theorem countSigns_eq (text : String) :
    countSigns text = (if startsWithMinus text then 1 else 0) + countSigns (afterMinus text) := by
  rw [countSigns, countSigns, startsWithMinus, afterMinus, String.toList_ofList]
  generalize text.toList = cs
  unfold splitMinus
  split
  · rw [List.countP_cons_of_pos (by decide), if_pos rfl, Nat.add_comm]
  · rw [if_neg Bool.false_ne_true, Nat.zero_add]

/-- Where no minus stands in front, none does so after it is taken off. -/
theorem head?_afterMinus (h : startsWithMinus text = false) :
    (afterMinus text).toList.head? ≠ some '-' := by
  rw [startsWithMinus] at h
  rw [afterMinus, String.toList_ofList]
  unfold splitMinus at h ⊢
  split at h
  · cases h
  · next cs hne =>
    intro hhead
    obtain ⟨rest, hrest⟩ := List.head?_eq_some_iff.mp hhead
    exact hne rest hrest

/-- Reading yields the integer of the numeral, or the text has no value. -/
theorem readInteger_cases (limit? : Option Nat) (text : String) (base : Int) :
    (∃ m, readInteger limit? text base = .ok m ∧ integer? base.toNat text = some m) ∨
      StopsAs (readInteger limit? text base) .value := by
  unfold readInteger
  cases isBase base with
  | false => exact .inr ⟨_, rfl, rfl⟩
  | true =>
    cases integer? base.toNat text with
    | none =>
      right
      cases limit? with
      | none => exact ⟨_, rfl, rfl⟩
      | some limit =>
        cases hexcess : excess? limit base.toNat text with
        | none =>
          simp only [hexcess]
          exact ⟨_, rfl, rfl⟩
        | some digits =>
          simp only [hexcess]
          exact ⟨_, rfl, rfl⟩
    | some m =>
      cases limit? with
      | none => exact .inl ⟨m, rfl, rfl⟩
      | some limit =>
        -- too many digits are noticed before anything else
        cases hexcess : excess? limit base.toNat text with
        | none =>
          simp only [hexcess]
          exact .inl ⟨m, rfl, rfl⟩
        | some digits =>
          simp only [hexcess]
          exact .inr ⟨_, rfl, rfl⟩

/-- What is read is the integer of the numeral. -/
theorem integer?_of_readInteger (h : readInteger limit? text base = .ok m) :
    integer? base.toNat text = some m := by
  obtain ⟨k, hk, hint⟩ | hstop := readInteger_cases limit? text base
  · cases h.symm.trans hk
    exact hint
  · rw [h] at hstop
    exact absurd hstop not_stopsAs_ok

/-- The empty text denotes no integer. -/
theorem integer?_empty (base : Nat) : integer? base "" = none := by
  have hunsigned : unsigned? base [] = none := by
    unfold unsigned?
    split <;> rfl
  change (unsigned? base []).map _ = none
  rw [hunsigned]
  rfl

/-- A numeral has no more than one sign, and one without a sign is not negative. -/
theorem signs_of_readInteger (h : readInteger limit? text base = .ok m) :
    countSigns text ≤ 1 ∧ (countSigns text = 0 → 0 ≤ m) :=
  signs_of_integer? (integer?_of_readInteger h)

/-- Apart from a minus in front a text with a numeral is malformed if and only if there is another
sign. -/
theorem isMalformed_iff_of_readInteger (h : readInteger limit? (afterMinus text) base = .ok m) :
    IsMalformed limit? text base ↔
      startsWithMinus text = true ∧ 1 ≤ countSigns (afterMinus text) := by
  have hne : text ≠ "" := by
    rintro rfl
    cases (integer?_empty _).symm.trans (integer?_of_readInteger h)
  have hone := (signs_of_readInteger h).1
  have hcount := countSigns_eq text
  constructor
  · rintro (hempty | htwo | hnone)
    · exact absurd hempty hne
    · cases hs : startsWithMinus text with
      | false =>
        rw [hs] at hcount
        simp only [Bool.false_eq_true, if_false] at hcount
        omega
      | true =>
        rw [hs] at hcount
        simp only [if_true] at hcount
        exact ⟨rfl, by omega⟩
    · exact absurd h (hnone m)
  · rintro ⟨hs, hsign⟩
    rw [hs, if_pos rfl] at hcount
    exact .inr (.inl (by omega))

end Text

namespace SignMagnitude

open Text

variable {w : Width} {limit? : Option Nat} {text : String} {base m : Int}

/-- A text that is a numeral apart from a minus in front is read as the magnitude of the numeral
with the sign in front, unless a second minus comes right behind the first one. -/
theorem parse_of_readInteger (h : readInteger limit? (afterMinus text) base = .ok m)
    (hhead : (afterMinus text).toList.head? ≠ some '-') :
    parse w limit? text base = (ofMagnitude w m (startsWithMinus text)).mapError .failure := by
  have hne : (splitMinus text.toList).2 ≠ [] := by
    intro hnil
    rw [afterMinus, hnil] at h
    cases (integer?_empty _).symm.trans (integer?_of_readInteger h)
  rw [afterMinus, String.toList_ofList] at hhead
  rw [parse_of_splitMinus rfl hne hhead]
  change (readInteger limit? (afterMinus text) base >>= _) = _
  rw [h]
  rfl

/-- Every other text is reported to have no value. -/
theorem stopsAs_value_of_not_read (w : Width)
    (h : (∀ m, readInteger limit? (afterMinus text) base ≠ .ok m) ∨
      (afterMinus text).toList.head? = some '-') :
    StopsAs (parse w limit? text base) .value := by
  by_cases hbad : (splitMinus text.toList).2 = [] ∨
      (splitMinus text.toList).2.head? = some '-'
  · exact parse_of_badSign rfl hbad
  · rw [not_or] at hbad
    rw [afterMinus, String.toList_ofList] at h
    have hnone := h.resolve_right hbad.2
    obtain ⟨m, hm, -⟩ | ⟨e, he, hkind⟩ := readInteger_cases limit? (afterMinus text) base
    · exact absurd hm (hnone m)
    · rw [parse_of_splitMinus rfl hbad.1 hbad.2]
      change StopsAs (readInteger limit? (afterMinus text) base >>= _) _
      rw [he]
      exact ⟨e, rfl, hkind⟩

/-- Reading reports a malformed text as one without a value, it overflows only when the integer that
the text denotes is out of range, and what it returns is the integer that the text denotes. -/
structure ReadsFaithfully (w : Width) (limit? : Option Nat) (text : String) (base : Int) :
    Prop where
  malformed : IsMalformed limit? text base → StopsAs (parse w limit? text base) .value
  overflow : StopsAs (parse w limit? text base) (.failure .overflow) →
    ∃ k, Denotes limit? text base k ∧ ¬(Rep.signMagnitude w).Represents k
  value : ∀ x, parse w limit? text base = .ok x → Denotes limit? text base x.toInt

/-- The sign of the numeral is taken for a part of the magnitude: behind a minus in front, where it
is a second sign, or by itself, where it is the minus of an integer in the range. -/
def Misreads (w : Width) (limit? : Option Nat) (text : String) (base : Int) : Prop :=
  ∃ m, readInteger limit? (afterMinus text) base = .ok m ∧
    if startsWithMinus text then
      (afterMinus text).toList.head? ≠ some '-' ∧ 1 ≤ countSigns (afterMinus text) ∧
        isLong m = false
    else m < 0 ∧ (Rep.signMagnitude w).Represents m

/-- A magnitude out of its range, also one below zero, stops the reading. -/
theorem ofMagnitude_stopsAs (n : Bool) (h : ¬(Format.unsigned w).Represents m) :
    StopsAs ((ofMagnitude w m n).mapError .failure) (Fault.overflowKind m) := by
  rw [ofMagnitude_of_not_represents n h,
    ← Fault.kind_reported_outOfRange m (Format.unsigned w).typeName]
  exact ⟨_, rfl, rfl⟩

/-- A text that is misread is not read faithfully. -/
theorem not_readsFaithfully_of_misreads (h : Misreads w limit? text base) :
    ¬ReadsFaithfully w limit? text base := by
  rintro ⟨hmalformed, hoverflow, -⟩
  obtain ⟨m, hm, h⟩ := h
  split at h
  · next hs =>
    obtain ⟨hhead, hsign, hlong⟩ := h
    have hstop := hmalformed ((isMalformed_iff_of_readInteger hm).mpr ⟨hs, hsign⟩)
    rw [parse_of_readInteger hm hhead] at hstop
    by_cases hrep : (Format.unsigned w).Represents m
    · obtain ⟨x, hx, -⟩ := exists_ofMagnitude (startsWithMinus text) hrep
      rw [hx] at hstop
      exact not_stopsAs_ok hstop
    · have hkind := hstop.kind_eq (ofMagnitude_stopsAs _ hrep)
      rw [Fault.overflowKind, hlong] at hkind
      cases hkind
  · next hs =>
    rw [Bool.not_eq_true] at hs
    obtain ⟨hneg, hrep⟩ := h
    have hunsigned : ¬(Format.unsigned w).Represents m := fun hm ↦ Int.not_lt.mpr hm.1 hneg
    have hstop := ofMagnitude_stopsAs (startsWithMinus text) hunsigned
    have hlong : isLong m = false :=
      Rep.isLong_eq_false_of_represents (Rep.signMagnitude_ne_unbounded w) hrep
    rw [← parse_of_readInteger hm (head?_afterMinus hs), Fault.overflowKind, hlong] at hstop
    obtain ⟨k, ⟨-, m', hm', rfl⟩, hk⟩ := hoverflow hstop
    cases hm.symm.trans hm'
    rw [hs] at hk
    exact hk hrep

/-- A text that is reported to have no value is read faithfully. -/
theorem readsFaithfully_of_stopsAs (h : StopsAs (parse w limit? text base) .value) :
    ReadsFaithfully w limit? text base := by
  refine ⟨fun _ ↦ h, fun hover ↦ ?_, fun x hx ↦ ?_⟩
  · cases h.kind_eq hover
  · rw [hx] at h
    exact absurd h not_stopsAs_ok

/-- A numeral whose minus is the one in front is read faithfully. -/
theorem readsFaithfully_of_readInteger
    (hm : readInteger limit? (afterMinus text) base = .ok m)
    (hhead : (afterMinus text).toList.head? ≠ some '-')
    (hsigned : ¬(startsWithMinus text = true ∧ 1 ≤ countSigns (afterMinus text)))
    (hminus : m < 0 → ¬(Rep.signMagnitude w).Represents m) :
    ReadsFaithfully w limit? text base := by
  have hwell : ¬IsMalformed limit? text base := fun h ↦
    hsigned ((isMalformed_iff_of_readInteger hm).mp h)
  have hdenotes : Denotes limit? text base (if startsWithMinus text then -m else m) :=
    ⟨hwell, m, hm, rfl⟩
  have habs : (if startsWithMinus text then -m else m).natAbs = m.natAbs := by
    split <;> omega
  have hparse := parse_of_readInteger (w := w) hm hhead
  refine ⟨fun h ↦ absurd h hwell, fun hover ↦ ⟨_, hdenotes, fun hk ↦ ?_⟩, fun x hx ↦ ?_⟩
  · have hunsigned : ¬(Format.unsigned w).Represents m := by
      intro hrep
      obtain ⟨x, hx, -⟩ := exists_ofMagnitude (startsWithMinus text) hrep
      rw [hparse, hx] at hover
      exact not_stopsAs_ok hover
    have hk : (Rep.signMagnitude w).Represents m := by
      change (_ : Int) ≤ _ at hk
      rw [habs] at hk
      exact hk
    -- the magnitude fits, so it is the minus that keeps it out
    have hneg : m < 0 := by
      by_contra hnonneg
      have hmagnitude : (m.natAbs : Int) ≤ (Format.unsigned w).max := hk
      exact hunsigned ⟨by rw [Format.min_unsigned]; omega, by omega⟩
    exact hminus hneg hk
  · by_cases hrep : (Format.unsigned w).Represents m
    · obtain ⟨y, hy, hread⟩ := exists_ofMagnitude (startsWithMinus text) hrep
      rw [hparse, hy] at hx
      cases hx
      rw [hread]
      exact hdenotes
    · have hstop := ofMagnitude_stopsAs (startsWithMinus text) hrep
      rw [← hparse, hx] at hstop
      exact absurd hstop not_stopsAs_ok

/-- A numeral with a sign behind the minus in front is reported to have no value when it is too long
to be named as out of range. -/
theorem stopsAs_value_of_isLong (hm : readInteger limit? (afterMinus text) base = .ok m)
    (hhead : (afterMinus text).toList.head? ≠ some '-') (hlong : isLong m = true) :
    StopsAs (parse w limit? text base) .value := by
  have hunsigned : ¬(Format.unsigned w).Represents m :=
    Rep.not_represents_of_isLong (Rep.fixed_ne_unbounded (.unsigned w)) hlong
  have hstop := ofMagnitude_stopsAs (startsWithMinus text) hunsigned
  rw [Fault.overflowKind, if_pos hlong] at hstop
  rw [parse_of_readInteger hm hhead]
  exact hstop

/-- Reading is faithful to a text if and only if it does not misread it. -/
theorem readsFaithfully_iff (w : Width) (limit? : Option Nat) (text : String) (base : Int) :
    ReadsFaithfully w limit? text base ↔ ¬Misreads w limit? text base := by
  refine ⟨fun h hmis ↦ not_readsFaithfully_of_misreads hmis h, fun hmis ↦ ?_⟩
  by_cases hhead : (afterMinus text).toList.head? = some '-'
  · exact readsFaithfully_of_stopsAs (stopsAs_value_of_not_read w (.inr hhead))
  by_cases hnone : ∀ m, readInteger limit? (afterMinus text) base ≠ .ok m
  · exact readsFaithfully_of_stopsAs (stopsAs_value_of_not_read w (.inl hnone))
  rw [not_forall_not] at hnone
  obtain ⟨m, hm⟩ := hnone
  cases hs : startsWithMinus text with
  | false =>
    refine readsFaithfully_of_readInteger hm hhead (by simp [hs]) fun hneg hrep ↦ hmis ⟨m, hm, ?_⟩
    rw [hs]
    exact ⟨hneg, hrep⟩
  | true =>
    by_cases hsign : 1 ≤ countSigns (afterMinus text)
    · have hlong : isLong m = true := by
        by_contra hshort
        refine hmis ⟨m, hm, ?_⟩
        rw [hs, if_pos rfl]
        exact ⟨hhead, hsign, Bool.not_eq_true _ ▸ hshort⟩
      exact readsFaithfully_of_stopsAs (stopsAs_value_of_isLong hm hhead hlong)
    · have hnonneg := (signs_of_readInteger hm).2 (by omega)
      exact readsFaithfully_of_readInteger hm hhead (fun h ↦ hsign h.2)
        fun hneg ↦ absurd hnonneg (Int.not_le.mpr hneg)

/-- The text `- -5` carries two signs, and its magnitude is reported to be out of range. -/
theorem parse_two_minuses_overflows :
    IsMalformed (some digitLimit) "- -5" 10 ∧
      StopsAs (parse .w8 (some digitLimit) "- -5" 10) (.failure .overflow) ∧
        ¬ReadsFaithfully .w8 (some digitLimit) "- -5" 10 := by
  have hmalformed : IsMalformed (some digitLimit) "- -5" 10 := .inr (.inl (by decide))
  have hstop : StopsAs (parse .w8 (some digitLimit) "- -5" 10) (.failure .overflow) := by
    have hread : readInteger (some digitLimit) (afterMinus "- -5") 10 = .ok (-5) := by decide
    rw [parse_of_readInteger hread (by decide)]
    refine ⟨.failure (.outOfRange (-5) "UInt8"), rfl, ?_⟩
    rw [Fault.kind_reported_outOfRange]
    exact Fault.overflowKind_of_natAbs_le
      (Nat.le_trans (by decide : (5 : Nat) ≤ twoPow 3) (twoPow_le_twoPow (by decide)))
  refine ⟨hmalformed, hstop, fun h ↦ ?_⟩
  cases hstop.kind_eq (h.malformed hmalformed)

end SignMagnitude

end Aliquot
