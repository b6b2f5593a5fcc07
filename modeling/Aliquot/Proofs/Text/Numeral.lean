import Aliquot.SignMagnitude.Text
import Mathlib.Data.List.Forall2
import Mathlib.Data.List.Induction
import Mathlib.Data.Nat.Digits.Defs

/-!
# Numerals and what they are made of

Digits are neither blanks nor signs, whichever script they belong to. A run of digits is therefore
read as it stands, and the number it denotes is the one that its digits stand for in the base. A
text that denotes an integer has one sign at most, and none when the integer is that of a numeral
without a minus.
-/

namespace Aliquot.Text

/-- The character is a sign. -/
def isSign (c : Char) : Bool := c == '+' || c == '-'

section Characters

variable {c : Char} {d : Nat}

private theorem le_iff_toNat (a b : Char) : a ≤ b ↔ a.toNat ≤ b.toNat := Iff.rfl

/-- A digit is one of ten figures or twenty-six letters, in either case. -/
theorem digitValue?_bounds (h : digitValue? c = some d) :
    (48 ≤ c.toNat ∧ c.toNat ≤ 57) ∨ (97 ≤ c.toNat ∧ c.toNat ≤ 122) ∨
      (65 ≤ c.toNat ∧ c.toNat ≤ 90) := by
  unfold digitValue? at h
  simp only [le_iff_toNat] at h
  split at h
  · next hc => exact .inl hc
  · split at h
    · next hc => exact .inr (.inl hc)
    · split at h
      · next hc => exact .inr (.inr hc)
      · cases h

/-- The figures and letters are no blanks. -/
theorem isBlank_eq_false_of_digitValue? (h : digitValue? c = some d) : isBlank c = false := by
  have hc := digitValue?_bounds h
  simp only [isBlank, Bool.or_eq_false_iff, Bool.and_eq_false_iff, beq_eq_false_iff_ne,
    decide_eq_false_iff_not]
  omega

/-- They are no signs. -/
theorem isSign_eq_false_of_digitValue? (h : digitValue? c = some d) : isSign c = false := by
  have hc := digitValue?_bounds h
  simp only [isSign, Bool.or_eq_false_iff, beq_eq_false_iff_ne]
  constructor
  · rintro rfl
    revert hc
    decide
  · rintro rfl
    revert hc
    decide

/-- The figure for a number below ten. -/
theorem digitValue?_figure (h : d < 10) : digitValue? (Char.ofNat ('0'.toNat + d)) = some d :=
  (by decide : ∀ d < 10, digitValue? (Char.ofNat ('0'.toNat + d)) = some d) d h

/-- The figures of all scripts lie behind the signs. -/
private theorem le_of_mem_decimalZeros : ∀ first ∈ decimalZeros.toList, 0x30 ≤ first := by
  decide

/-- A decimal digit of any script is worth less than ten, and it is no sign. -/
theorem plain_of_decimalDigit? (h : decimalDigit? c = some d) : d < 10 ∧ isSign c = false := by
  unfold decimalDigit? at h
  rw [Option.map_eq_some_iff] at h
  obtain ⟨first, hfind, rfl⟩ := h
  have hrange := Array.find?_some hfind
  rw [Bool.and_eq_true, decide_eq_true_iff, decide_eq_true_iff] at hrange
  have hbehind := le_of_mem_decimalZeros first
    (Array.mem_toList_iff.mpr (Array.mem_of_find?_eq_some hfind))
  constructor
  · omega
  · simp only [isSign, Bool.or_eq_false_iff, beq_eq_false_iff_ne]
    constructor
    · rintro rfl
      exact absurd hrange.1 (by change ¬first ≤ 0x2b; omega)
    · rintro rfl
      exact absurd hrange.1 (by change ¬first ≤ 0x2d; omega)

/-- Folding the scripts does not make signs or remove them. -/
@[simp] theorem isSign_foldDigit (c : Char) : isSign (foldDigit c) = isSign c := by
  unfold foldDigit
  split
  · next d h =>
    obtain ⟨hd, hsign⟩ := plain_of_decimalDigit? h
    rw [hsign, isSign_eq_false_of_digitValue? (digitValue?_figure hd)]
  · rfl

/-- A sign is no blank. -/
theorem isSign_eq_false_of_isBlank (h : isBlank c = true) : isSign c = false := by
  rw [Bool.eq_false_iff]
  intro hsign
  rw [isSign, Bool.or_eq_true, beq_iff_eq, beq_iff_eq] at hsign
  rcases hsign with rfl | rfl
  · exact Bool.noConfusion h
  · exact Bool.noConfusion h

end Characters

section Signs

variable {base : Nat} {cs : List Char}

private theorem countP_isSign_dropWhile (cs : List Char) :
    (cs.dropWhile isBlank).countP isSign = cs.countP isSign := by
  induction cs with
  | nil => rfl
  | cons c cs ih =>
    rw [List.dropWhile_cons]
    split
    · next h =>
      rw [ih, List.countP_cons_of_neg (Bool.eq_false_iff.mp (isSign_eq_false_of_isBlank h))]
    · rfl

/-- No sign is lost with the blanks at the ends. -/
theorem countP_isSign_trimBlanks (cs : List Char) :
    (trimBlanks cs).countP isSign = cs.countP isSign := by
  rw [trimBlanks, List.countP_reverse, countP_isSign_dropWhile, List.countP_reverse,
    countP_isSign_dropWhile]

/-- Folding the scripts keeps the number of signs. -/
theorem countP_isSign_map_foldDigit (cs : List Char) :
    (cs.map foldDigit).countP isSign = cs.countP isSign := by
  rw [List.countP_map]
  congr 1
  funext c
  exact isSign_foldDigit c

/-- A digit of a base is worth what it is worth as a figure or letter. -/
theorem digitIn?_eq_some_iff {c : Char} {d : Nat} :
    digitIn? base c = some d ↔ digitValue? c = some d ∧ d < base := by
  rw [digitIn?, Option.filter_eq_some_iff, decide_eq_true_iff]

/-- There is no sign among digits and underscores. -/
theorem countP_isSign_of_digitsIn? {ds : List Nat} (h : digitsIn? base cs = some ds) :
    cs.countP isSign = 0 := by
  have hdigit {c : Char} {d : Nat} (hc : digitIn? base c = some d) : ¬isSign c = true :=
    Bool.eq_false_iff.mp (isSign_eq_false_of_digitValue? (digitIn?_eq_some_iff.mp hc).1)
  induction cs using digitsIn?.induct generalizing ds with
  | case1 => cases h
  | case2 c =>
    rw [digitsIn?, Option.map_eq_some_iff] at h
    obtain ⟨d, hc, -⟩ := h
    rw [List.countP_cons_of_neg (hdigit hc), List.countP_nil]
  | case3 c cs ih =>
    rw [digitsIn?] at h
    simp only [Option.bind_eq_bind, Option.bind_eq_some_iff] at h
    obtain ⟨d, hc, ds, hcs, -⟩ := h
    rw [List.countP_cons_of_neg (hdigit hc), List.countP_cons_of_neg (by decide), ih hcs]
  | case4 c cs hne hunder ih =>
    rw [digitsIn?] at h
    · simp only [Option.bind_eq_bind, Option.bind_eq_some_iff] at h
      obtain ⟨d, hc, ds, hcs, -⟩ := h
      rw [List.countP_cons_of_neg (hdigit hc), ih hcs]
    · exact hne
    · exact hunder

/-- A prefix is a zero and a letter that announces the base; an underscore may come next. -/
theorem exists_of_splitPrefix? {announced : Nat} {rest : List Char}
    (h : splitPrefix? cs = some (announced, rest)) :
    ∃ letter tail, cs = '0' :: letter :: tail ∧ prefixBase? letter = some announced ∧
      (tail = '_' :: rest ∨ tail = rest) := by
  unfold splitPrefix? at h
  split at h
  · next letter tail =>
    rw [Option.map_eq_some_iff] at h
    obtain ⟨_, hletter, hpair⟩ := h
    cases hpair
    exact ⟨letter, _, rfl, hletter, .inl rfl⟩
  · next letter tail _ =>
    rw [Option.map_eq_some_iff] at h
    obtain ⟨_, hletter, hpair⟩ := h
    cases hpair
    exact ⟨letter, _, rfl, hletter, .inr rfl⟩
  · cases h

/-- There is no sign in a base prefix. -/
theorem countP_isSign_of_splitPrefix? {announced : Nat} {rest : List Char}
    (h : splitPrefix? cs = some (announced, rest)) :
    cs.countP isSign = rest.countP isSign := by
  obtain ⟨letter, tail, rfl, hletter, htail⟩ := exists_of_splitPrefix? h
  have hplain : ¬isSign letter = true := by
    intro hsign
    rw [isSign, Bool.or_eq_true, beq_iff_eq, beq_iff_eq] at hsign
    rcases hsign with rfl | rfl
    · exact absurd hletter nofun
    · exact absurd hletter nofun
  rw [List.countP_cons_of_neg (by decide), List.countP_cons_of_neg hplain]
  rcases htail with rfl | rfl
  · exact List.countP_cons_of_neg (by decide)
  · rfl

/-- There is no sign in a numeral but the one in front. -/
theorem countP_isSign_of_unsigned? {n : Nat} (h : unsigned? base cs = some n) :
    cs.countP isSign = 0 := by
  have hdigits {b m : Nat} {ds : List Char} (hd : (digitsIn? b ds).map (ofDigits b) = some m) :
      ds.countP isSign = 0 := by
    rw [Option.map_eq_some_iff] at hd
    obtain ⟨_, hd, -⟩ := hd
    exact countP_isSign_of_digitsIn? hd
  unfold unsigned? at h
  split at h
  · split at h
    · next hp => rw [countP_isSign_of_splitPrefix? hp, hdigits h]
    · dsimp only at h
      split at h
      · rw [Option.filter_eq_some_iff] at h
        exact hdigits h.1
      · exact hdigits h
  · split at h
    · next hp =>
      split at h
      · rw [countP_isSign_of_splitPrefix? hp, hdigits h]
      · exact hdigits h
    · exact hdigits h

/-- A text that denotes an integer has one sign at most, and the integer of one without a sign is
not negative. -/
theorem signs_of_integer? {text : String} {k : Int} (h : integer? base text = some k) :
    text.toList.countP isSign ≤ 1 ∧ (text.toList.countP isSign = 0 → 0 ≤ k) := by
  rw [← countP_isSign_map_foldDigit, ← countP_isSign_trimBlanks]
  unfold integer? at h
  generalize trimBlanks (text.toList.map foldDigit) = cs at h ⊢
  rw [Option.map_eq_some_iff] at h
  obtain ⟨n, hn, rfl⟩ := h
  have hrest := countP_isSign_of_unsigned? hn
  unfold splitSign at hrest ⊢
  split at hrest
  · rw [List.countP_cons_of_pos (by decide), hrest]
    exact ⟨Nat.le_refl _, nofun⟩
  · rw [List.countP_cons_of_pos (by decide), hrest]
    exact ⟨Nat.le_refl _, nofun⟩
  · rw [hrest]
    exact ⟨Nat.zero_le _, fun _ ↦ Int.natCast_nonneg n⟩

end Signs

section Digits

variable {base : Nat} {cs : List Char} {ds : List Nat}

/-- The characters are digits of the base, of any script and letters of either case, and `ds` is
what they are worth. -/
def Spells (base : Nat) : List Char → List Nat → Prop :=
  List.Forall₂ fun c d ↦ digitIn? base (foldDigit c) = some d

/-- The digits of a number stand for the powers of the base, the last one for its units. -/
theorem ofDigits_eq (base : Nat) (ds : List Nat) :
    ofDigits base ds = Nat.ofDigits base ds.reverse := by
  induction ds using List.reverseRecOn with
  | nil => rfl
  | append_singleton ds d ih =>
    rw [List.reverse_append, List.reverse_singleton, List.singleton_append, Nat.ofDigits_cons, ← ih,
      ofDigits, List.foldl_append, List.foldl_cons, List.foldl_nil, ofDigits, Nat.mul_comm,
      Nat.add_comm]

/-- A further digit counts as the new units. -/
theorem ofDigits_concat (base : Nat) (ds : List Nat) (d : Nat) :
    ofDigits base (ds ++ [d]) = ofDigits base ds * base + d := by
  rw [ofDigits, List.foldl_append]
  rfl

/-- A prefix letter is no digit of the base that it announces. -/
theorem digitIn?_of_prefixBase? {c : Char} (h : prefixBase? c = some base) :
    digitIn? base c = none := by
  unfold prefixBase? at h
  split at h
  · next hc => cases h; rcases hc with rfl | rfl <;> rfl
  · split at h
    · next hc => cases h; rcases hc with rfl | rfl <;> rfl
    · split at h
      · next hc => cases h; rcases hc with rfl | rfl <;> rfl
      · cases h

/-- One or more digits are read as they stand. -/
theorem digitsIn?_of_forall₂ (h : List.Forall₂ (fun c d ↦ digitIn? base c = some d) cs ds)
    (hne : cs ≠ []) : digitsIn? base cs = some ds := by
  induction h with
  | nil => exact absurd rfl hne
  | @cons c d cs ds hc hcs ih =>
    cases hcs with
    | nil => rw [digitsIn?, hc]; rfl
    | @cons c' d' cs ds hc' hcs =>
      have hunder : c' ≠ '_' := by
        rintro rfl
        cases hc'
      rw [digitsIn?, hc, ih nofun]
      · rfl
      · nofun
      · intro _ heq
        exact hunder (List.cons.inj heq).1

/-- The digits of a base that is not zero are read without a prefix: their letters announce other
bases. -/
theorem unsigned?_of_forall₂ (hb : base ≠ 0)
    (h : List.Forall₂ (fun c d ↦ digitIn? base c = some d) cs ds) (hne : cs ≠ []) :
    unsigned? base cs = some (ofDigits base ds) := by
  have hread : (digitsIn? base cs).map (ofDigits base) = some (ofDigits base ds) := by
    rw [digitsIn?_of_forall₂ h hne]
    rfl
  rw [unsigned?, if_neg hb]
  split
  · next announced rest hp =>
    have hannounced : announced ≠ base := by
      rintro rfl
      obtain ⟨letter, tail, rfl, hletter, -⟩ := exists_of_splitPrefix? hp
      obtain ⟨_, _, _, h, -⟩ := List.forall₂_cons_left_iff.mp h
      obtain ⟨_, _, hd, -⟩ := List.forall₂_cons_left_iff.mp h
      cases (digitIn?_of_prefixBase? hletter).symm.trans hd
    rw [if_neg hannounced, hread]
  · exact hread

/-- What has no blanks at its ends is not trimmed. -/
theorem trimBlanks_eq_self (h : ∀ c ∈ cs, isBlank c = false) : trimBlanks cs = cs := by
  have hdrop {cs : List Char} (h : ∀ c ∈ cs, isBlank c = false) : cs.dropWhile isBlank = cs := by
    cases cs with
    | nil => rfl
    | cons c cs => rw [List.dropWhile_cons, h c List.mem_cons_self]; rfl
  rw [trimBlanks, hdrop h, hdrop (fun c hc ↦ h c (List.mem_reverse.mp hc)), List.reverse_reverse]

/-- What does not begin with a sign has none to be split off. -/
theorem splitSign_eq_self (h : ∀ c ∈ cs, isSign c = false) : splitSign cs = (false, cs) := by
  unfold splitSign
  split
  · exact absurd (h '-' List.mem_cons_self) (by decide)
  · exact absurd (h '+' List.mem_cons_self) (by decide)
  · rfl

/-- Spelled digits stay digits when their scripts are folded. -/
theorem Spells.forall₂_map (h : Spells base cs ds) :
    List.Forall₂ (fun c d ↦ digitIn? base c = some d) (cs.map foldDigit) ds :=
  List.forall₂_map_left_iff.mpr h

/-- Each digit of a run is a figure or a letter. -/
theorem exists_digitValue?_of_forall₂
    (h : List.Forall₂ (fun c d ↦ digitIn? base c = some d) cs ds) :
    ∀ c ∈ cs, ∃ d, digitValue? c = some d := by
  induction h with
  | nil => nofun
  | cons hc _ ih => exact List.forall_mem_cons.mpr ⟨⟨_, (digitIn?_eq_some_iff.mp hc).1⟩, ih⟩

/-- Before its sign is looked for, a run of digits is what it is. -/
theorem splitSign_trimBlanks_of_spells (h : Spells base cs ds) :
    splitSign (trimBlanks (cs.map foldDigit)) = (false, cs.map foldDigit) := by
  have hdigits := exists_digitValue?_of_forall₂ h.forall₂_map
  rw [trimBlanks_eq_self fun c hc ↦ (hdigits c hc).elim fun _ ↦ isBlank_eq_false_of_digitValue?,
    splitSign_eq_self fun c hc ↦ (hdigits c hc).elim fun _ ↦ isSign_eq_false_of_digitValue?]

/-- A run of digits of a base that is not zero denotes what they stand for. -/
theorem integer?_of_spells (hb : base ≠ 0) (h : Spells base cs ds) (hne : cs ≠ []) :
    integer? base (String.ofList cs) = some (ofDigits base ds : Int) := by
  rw [integer?, String.toList_ofList, splitSign_trimBlanks_of_spells h]
  dsimp only
  rw [unsigned?_of_forall₂ hb h.forall₂_map (by simpa using hne)]
  rfl

/-- All digits of a run count towards its length. -/
theorem digitRun_of_forall₂ (h : List.Forall₂ (fun c d ↦ digitIn? base c = some d) cs ds) :
    digitRun base cs = cs := by
  unfold digitRun
  induction h with
  | nil => rfl
  | cons hc _ ih => rw [List.takeWhile_cons, hc, Option.isSome_some, Bool.or_true, if_pos rfl, ih]

/-- There are no more digits than are read, or the base is one in which all of them are. -/
def Within (limit? : Option Nat) (base length : Nat) : Prop :=
  base ∈ [2, 4, 8, 16, 32] ∨ ∀ limit ∈ limit?, length ≤ limit

/-- A run of no more digits than are read does not exceed the limit. -/
theorem excess?_of_spells {limit : Nat} (hb : base ≠ 0) (h : Spells base cs ds) (hne : cs ≠ [])
    (hw : Within (some limit) base ds.length) : excess? limit base (String.ofList cs) = none := by
  rw [excess?, String.toList_ofList, splitSign_trimBlanks_of_spells h]
  dsimp only
  rw [slowBase?, if_neg hb]
  split
  · rfl
  · next hslow =>
    have hlength : ¬limit < ds.length := Nat.not_lt.mpr ((hw.resolve_left hslow) limit rfl)
    change (digitsIn? base (digitRun base (cs.map foldDigit))).bind _ = none
    rw [digitRun_of_forall₂ h.forall₂_map,
      digitsIn?_of_forall₂ h.forall₂_map (by simpa using hne)]
    exact if_neg hlength

/-- A run of digits is read as the number that they stand for. -/
theorem readInteger_of_spells {limit? : Option Nat} (hb : 2 ≤ base ∧ base ≤ 36)
    (h : Spells base cs ds) (hne : cs ≠ []) (hw : Within limit? base ds.length) :
    readInteger limit? (String.ofList cs) base = .ok (ofDigits base ds : Int) := by
  have hzero : base ≠ 0 := by omega
  have hbase : isBase base = true := by
    simp only [isBase, Bool.or_eq_true, Bool.and_eq_true, decide_eq_true_iff]
    omega
  rw [readInteger, hbase, Int.toNat_natCast, integer?_of_spells hzero h hne]
  cases limit? with
  | none => rfl
  | some limit =>
    simp only [excess?_of_spells hzero h hne hw]
    rfl

end Digits

end Aliquot.Text
