import Aliquot.Proofs.Euclid.Coefficients

/-!
# The least coefficients

The quotient of the last step is at least two in absolute value, unless the two numbers have one
absolute value. So the coefficients found are at most half as large as those of the row that is left
over, which are the given numbers divided by their greatest common divisor.
-/

namespace Aliquot.Euclid

open CheckedInt

namespace State

variable {a b : Int} {s t : State Int} {n : Nat}

/-- After the first step the dividing value is smaller than the divided one. -/
theorem Reaches.natAbs_next_lt (h : Reaches s n t) (hn : n ≠ 0) :
    t.next.value.natAbs < t.current.value.natAbs := by
  cases h with
  | refl => exact absurd rfl hn
  | @step n u h hz =>
    change u.difference.value.natAbs < u.next.value.natAbs
    rw [difference_value]
    exact natAbs_tmod_lt hz _

/-- Unless both numbers have one absolute value, the quotient of a step that leaves no remainder is
neither zero nor a unit. -/
theorem Reaches.two_le_natAbs_quotient (h : Reaches (start a b) n t)
    (hend : t.difference.value = 0) (ha : a ≠ 0) (hab : a.natAbs ≠ b.natAbs) :
    2 ≤ t.quotient.natAbs := by
  have hexact : t.current.value = t.quotient * t.next.value := sub_eq_zero.mp hend
  have habs : t.current.value.natAbs = t.quotient.natAbs * t.next.value.natAbs := by
    rw [hexact, Int.natAbs_mul]
  -- the first step divides the given numbers, every later one a value by a smaller value
  have hne : t.current.value.natAbs ≠ 0 ∧ t.current.value.natAbs ≠ t.next.value.natAbs := by
    by_cases hn : n = 0
    · subst hn
      cases h
      exact ⟨Int.natAbs_ne_zero.mpr ha, hab⟩
    · have := h.natAbs_next_lt hn
      omega
  by_contra hlt
  obtain hq | hq : t.quotient.natAbs = 0 ∨ t.quotient.natAbs = 1 := by omega
  · rw [hq, Nat.zero_mul] at habs
    exact hne.1 habs
  · rw [hq, Nat.one_mul] at habs
    exact hne.2 habs

/-- What bounds the coefficient that a step with such a quotient makes bounds the double of the
coefficient that it is made of. -/
theorem two_mul_natAbs_le {c d e q v : Int} {k : Nat} (hq : 2 ≤ q.natAbs)
    (hd : d.natAbs = e.natAbs + (q * c).natAbs) (hk : d.natAbs * v.natAbs ≤ k) :
    2 * (c * v).natAbs ≤ k := by
  have hcd : 2 * c.natAbs ≤ d.natAbs := by
    have := Nat.mul_le_mul_right c.natAbs hq
    rw [← Int.natAbs_mul] at this
    omega
  calc 2 * (c * v).natAbs = 2 * c.natAbs * v.natAbs := by rw [Int.natAbs_mul, Nat.mul_assoc]
    _ ≤ d.natAbs * v.natAbs := Nat.mul_le_mul_right _ hcd
    _ ≤ k := hk

/-- At the end of a run the double of each coefficient, measured in the divisor, is bounded by the
number that belongs to the other one. -/
theorem Reaches.two_mul_coeff_le (h : Reaches (start a b) n t) (hend : t.next.value = 0)
    (ha : a ≠ 0) (hb : b ≠ 0) (hab : a.natAbs ≠ b.natAbs) :
    2 * (t.current.coeff₁ * t.current.value).natAbs ≤ b.natAbs ∧
      2 * (t.current.coeff₂ * t.current.value).natAbs ≤ a.natAbs := by
  cases h with
  | refl => exact absurd hend hb
  | @step n s h hz =>
    have hq := h.two_le_natAbs_quotient hend ha hab
    have hlast := (h.step hz).grows
    exact ⟨two_mul_natAbs_le hq h.grows.difference₁ hlast.next₁,
      two_mul_natAbs_le hq h.grows.difference₂ hlast.next₂⟩

end State

/-- Numbers other than zero with different absolute values have coefficients whose double, measured
in the divisor, does not exceed the other number. -/
theorem two_mul_coeff_le {a b : Int} {row : Row Int} (h : xgcd a b = .ok row) (ha : a ≠ 0)
    (hb : b ≠ 0) (hab : a.natAbs ≠ b.natAbs) :
    2 * (row.coeff₁ * row.value).natAbs ≤ b.natAbs ∧
      2 * (row.coeff₂ * row.value).natAbs ≤ a.natAbs := by
  obtain ⟨n, t, ht, hend, hrun⟩ := State.exists_reaches (.start a b)
  rw [xgcd, hrun] at h
  cases h
  exact ht.two_mul_coeff_le hend ha hb hab

/-- Each coefficient is at most as large as the number that belongs to the other one, or one. -/
theorem natAbs_coeff_le {a b : Int} {row : Row Int} (h : xgcd a b = .ok row) :
    row.coeff₁.natAbs ≤ max b.natAbs 1 ∧ row.coeff₂.natAbs ≤ max a.natAbs 1 := by
  by_cases hb : b = 0
  · subst hb
    rw [xgcd_zero_right] at h
    cases h
    exact ⟨Nat.le_max_right .., Nat.zero_le _⟩
  by_cases hdvd : b ∣ a
  · rw [xgcd_of_dvd hb hdvd] at h
    cases h
    exact ⟨Nat.zero_le _, Nat.le_max_right ..⟩
  have ha : a ≠ 0 := by
    rintro rfl
    exact hdvd (dvd_zero b)
  have hne : a.natAbs ≠ b.natAbs := fun heq ↦ hdvd (Int.natAbs_dvd_natAbs.mp (dvd_of_eq heq.symm))
  have hg : 0 < row.value.natAbs :=
    Int.natAbs_pos.mpr (ne_zero_of_natAbs_eq_gcd (.inr hb) (natAbs_value_of_xgcd h))
  have hle := two_mul_coeff_le h ha hb hne
  rw [Int.natAbs_mul, Int.natAbs_mul] at hle
  have := Nat.le_mul_of_pos_right row.coeff₁.natAbs hg
  have := Nat.le_mul_of_pos_right row.coeff₂.natAbs hg
  omega

/-- The coefficients for a number and a positive modulus without a common divisor are at most half
as large as these, unless they are one and zero. -/
theorem two_mul_natAbs_coeff_le {a m : Int} {row : Row Int} (h : xgcd a m = .ok row)
    (hm : 0 < m) (hgcd : a.gcd m = 1) :
    2 * row.coeff₁.natAbs ≤ max 2 m.natAbs ∧ 2 * row.coeff₂.natAbs ≤ max 2 a.natAbs := by
  have hg := natAbs_value_of_xgcd h
  rcases eq_or_ne m 1 with rfl | hone
  · rw [xgcd_of_dvd hm.ne' (one_dvd a)] at h
    cases h
    exact ⟨Nat.zero_le _, Nat.le_max_left ..⟩
  · have ha : a ≠ 0 := by
      rintro rfl
      rw [Int.gcd_zero_left] at hgcd
      omega
    have hne : a.natAbs ≠ m.natAbs := by
      intro heq
      rw [Int.gcd_def, heq, Nat.gcd_self] at hgcd
      omega
    have hle := two_mul_coeff_le h ha hm.ne' hne
    rw [Int.natAbs_mul, Int.natAbs_mul, hg, hgcd, Nat.mul_one, Nat.mul_one] at hle
    omega

/-- A number whose absolute value is the greatest common divisor is a common divisor that every
common divisor divides. -/
theorem isGreatest_of_natAbs_eq_gcd {a b g : Int} (hg : g.natAbs = a.gcd b) :
    g ∣ a ∧ g ∣ b ∧ ∀ d, d ∣ a → d ∣ b → d ∣ g := by
  refine ⟨?_, ?_, fun d hda hdb ↦ ?_⟩
  · rw [← Int.natAbs_dvd, hg]
    exact Int.gcd_dvd_left ..
  · rw [← Int.natAbs_dvd, hg]
    exact Int.gcd_dvd_right ..
  · rw [← Int.dvd_natAbs, hg]
    exact Int.dvd_coe_gcd hda hdb

/-- The extended algorithm always ends. It finds a greatest common divisor with coefficients that
combine the two numbers to it and are at most half as large as the numbers divided by it. Where one
number is zero or both have one absolute value, one coefficient is one and the other zero. -/
theorem xgcd_finds_least_coefficients (a b : Int) :
    ∃ g p q, xgcd a b = .ok ⟨g, p, q⟩ ∧ p * a + q * b = g ∧
      (g ∣ a ∧ g ∣ b ∧ ∀ d, d ∣ a → d ∣ b → d ∣ g) ∧ g.natAbs = a.gcd b ∧
      (g = 0 ↔ a = 0 ∧ b = 0) ∧
      (a ≠ 0 → b ≠ 0 → a.natAbs ≠ b.natAbs →
        2 * (p * g).natAbs ≤ b.natAbs ∧ 2 * (q * g).natAbs ≤ a.natAbs) ∧
      (b = 0 → g = a ∧ p = 1 ∧ q = 0) ∧
      (a = 0 ∧ b ≠ 0 ∨ a.natAbs = b.natAbs ∧ b ≠ 0 → g = b ∧ p = 0 ∧ q = 1) := by
  obtain ⟨⟨g, p, q⟩, hx, hcomb, hg⟩ := exists_xgcd a b
  refine ⟨g, p, q, hx, hcomb, isGreatest_of_natAbs_eq_gcd hg, hg, ?_,
    fun ha hb hab ↦ two_mul_coeff_le hx ha hb hab, ?_, ?_⟩
  · rw [← Int.natAbs_eq_zero, hg, Int.gcd_eq_zero_iff]
  · rintro rfl
    rw [xgcd_zero_right] at hx
    cases hx
    exact ⟨rfl, rfl, rfl⟩
  · intro h
    have hb : b ≠ 0 := h.elim (·.2) (·.2)
    have hdvd : b ∣ a := by
      rcases h with ⟨rfl, -⟩ | ⟨hab, -⟩
      · exact dvd_zero b
      · exact Int.natAbs_dvd_natAbs.mp (hab ▸ dvd_rfl)
    rw [xgcd_of_dvd hb hdvd] at hx
    cases hx
    exact ⟨rfl, rfl, rfl⟩

/-- The coefficients for `-97` and 18 are small; those for 7 and zero, for zero and `-5` and for 4
and `-4` are one and zero. -/
theorem xgcd_ninety_seven_eighteen :
    (∃ g p q, xgcd (-97 : Int) 18 = .ok ⟨g, p, q⟩ ∧ 2 * (p * g).natAbs ≤ 18 ∧
      2 * (q * g).natAbs ≤ 97) ∧
    xgcd (7 : Int) 0 = .ok ⟨7, 1, 0⟩ ∧ xgcd (0 : Int) (-5) = .ok ⟨-5, 0, 1⟩ ∧
    xgcd (4 : Int) (-4) = .ok ⟨-4, 0, 1⟩ := by
  obtain ⟨g, p, q, hx, -, -, -, -, hle, -⟩ := xgcd_finds_least_coefficients (-97) 18
  obtain ⟨_, _, _, hzero, -, -, -, -, -, hright, -⟩ := xgcd_finds_least_coefficients 7 0
  obtain ⟨_, _, _, hleft, -, -, -, -, -, -, hfirst⟩ := xgcd_finds_least_coefficients 0 (-5)
  obtain ⟨_, _, _, hsame, -, -, -, -, -, -, hboth⟩ := xgcd_finds_least_coefficients 4 (-4)
  obtain ⟨rfl, rfl, rfl⟩ := hright rfl
  obtain ⟨rfl, rfl, rfl⟩ := hfirst (.inl ⟨rfl, by decide⟩)
  obtain ⟨rfl, rfl, rfl⟩ := hboth (.inr ⟨rfl, by decide⟩)
  exact ⟨⟨g, p, q, hx, hle (by decide) (by decide) (by decide)⟩, hzero, hleft, hsame⟩

end Aliquot.Euclid
