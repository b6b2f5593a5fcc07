import Aliquot.Proofs.Text.Numeral

/-!
# Decimal numerals as they are written

An integer is written with no zero in front and no sign but the minus of an integer below zero. Its
digits are read back as the integer, and every text of this form is the numeral of its integer.
-/

namespace Aliquot.Text

/-- The figures for the numbers below ten are decimal digits. -/
private theorem digitIn?_digitChar {d : Nat} (h : d < 10) :
    digitIn? 10 (foldDigit (Nat.digitChar d)) = some d :=
  (by decide : ∀ d < 10, digitIn? 10 (foldDigit (Nat.digitChar d)) = some d) d h

/-- Digits with a minus in front, or without one. -/
def signed (negative : Bool) (cs : List Char) : String :=
  String.ofList ((if negative then ['-'] else []) ++ cs)

/-- The decimal numeral of a number with a sign. -/
def decimal (negative : Bool) (n : Nat) : String := signed negative (Nat.toDigits 10 n)

/-- The digits with which a number is written spell it. -/
theorem exists_spells_toDigits (n : Nat) :
    ∃ ds, Spells 10 (Nat.toDigits 10 n) ds ∧ ofDigits 10 ds = n := by
  induction n using Nat.strong_induction_on with
  | _ n ih =>
    by_cases hn : n < 10
    · rw [Nat.toDigits_of_lt_base hn]
      exact ⟨[n], .cons (digitIn?_digitChar hn) .nil, by rw [ofDigits]; simp⟩
    · obtain ⟨ds, hds, hvalue⟩ := ih (n / 10) (by omega)
      have hlast : n % 10 < 10 := Nat.mod_lt n (by decide)
      rw [Nat.toDigits_of_base_le (by decide) (Nat.not_lt.mp hn)]
      refine ⟨ds ++ [n % 10], List.rel_append hds (.cons (digitIn?_digitChar hlast) .nil), ?_⟩
      rw [ofDigits_concat, hvalue]
      omega

/-- One or more figures, without a zero in front of others. -/
structure IsCanonicalRun (cs : List Char) : Prop where
  ne_nil : cs ≠ []
  isDigit : ∀ c ∈ cs, c.isDigit = true
  leading : cs.head? = some '0' → cs = ['0']

/-- The text is the numeral of the integer `k`: its digits without a zero in front, and a minus if
and only if the integer is below zero. -/
def IsCanonical (text : String) (k : Int) : Prop :=
  ∃ cs, IsCanonicalRun cs ∧
    (text = String.ofList cs ∧ k = Nat.ofDigitChars 10 cs 0 ∨
      text = String.ofList ('-' :: cs) ∧ cs ≠ ['0'] ∧ k = -(Nat.ofDigitChars 10 cs 0 : Int))

/-- A figure is that of a number below ten. -/
private theorem exists_digitChar {c : Char} (h : c.isDigit = true) :
    ∃ d < 10, c = Nat.digitChar d := by
  rw [Char.isDigit, Bool.and_eq_true, decide_eq_true_iff, decide_eq_true_iff] at h
  have hcode : 48 ≤ c.toNat ∧ c.toNat ≤ 57 := h
  obtain ⟨d, hd⟩ := Nat.exists_eq_add_of_le hcode.1
  have hlt : d < 10 := by omega
  refine ⟨d, hlt, ?_⟩
  rw [← Char.ofNat_toNat c, hd]
  exact (by decide : ∀ d < 10, Char.ofNat (48 + d) = Nat.digitChar d) d hlt

/-- Figures without a zero in front are those with which a number is written. -/
theorem IsCanonicalRun.exists_toDigits {cs : List Char} (h : IsCanonicalRun cs) :
    ∃ n, cs = Nat.toDigits 10 n := by
  induction cs using List.reverseRecOn with
  | nil => exact absurd rfl h.ne_nil
  | append_singleton cs c ih =>
    obtain ⟨d, hd, rfl⟩ := exists_digitChar (h.isDigit c (by simp))
    by_cases hcs : cs = []
    · rw [hcs]
      exact ⟨d, (Nat.toDigits_of_lt_base hd).symm⟩
    · have hhead : cs.head? ≠ some '0' := by
        intro hzero
        have hall := h.leading (by rw [List.head?_append_of_ne_nil _ hcs, hzero])
        have hlength := congrArg List.length hall
        have := List.length_pos_iff.mpr hcs
        rw [List.length_append] at hlength
        simp at hlength
        exact hcs hlength
      obtain ⟨n, hn⟩ := ih ⟨hcs, fun c hc ↦ h.isDigit c (List.mem_append_left _ hc),
        fun hzero ↦ absurd hzero hhead⟩
      have hpos : 0 < n := by
        rw [Nat.pos_iff_ne_zero]
        rintro rfl
        exact hhead (by rw [hn, Nat.toDigits_zero]; rfl)
      refine ⟨10 * n + d, ?_⟩
      rw [hn, ← Nat.toDigits_append_toDigits (by decide) hpos hd, Nat.toDigits_of_lt_base hd]

/-- Only zero is written with the figure zero alone. -/
private theorem toDigits_eq_zero_iff {n : Nat} : Nat.toDigits 10 n = ['0'] ↔ n = 0 := by
  constructor
  · intro h
    have hvalue := congrArg (Nat.ofDigitChars 10 · 0) h
    rw [Nat.ofDigitChars_toDigits (by decide) (by decide)] at hvalue
    exact hvalue
  · rintro rfl
    exact Nat.toDigits_zero 10

/-- The numeral of an integer is what is written for its magnitude and sign. -/
theorem IsCanonical.exists_decimal {text : String} {k : Int} (h : IsCanonical text k) :
    text = decimal (decide (k < 0)) k.natAbs := by
  obtain ⟨cs, hcs, h⟩ := h
  obtain ⟨n, rfl⟩ := hcs.exists_toDigits
  rw [Nat.ofDigitChars_toDigits (by decide) (by decide), ne_eq, toDigits_eq_zero_iff] at h
  obtain ⟨rfl, rfl⟩ | ⟨rfl, hne, rfl⟩ := h
  · rw [decide_eq_false (Int.not_lt.mpr (Int.natCast_nonneg n)), Int.natAbs_natCast]
    rfl
  · rw [decide_eq_true (by omega), Int.natAbs_neg, Int.natAbs_natCast]
    rfl

end Aliquot.Text
