import Aliquot.Proofs.Euclid.Signs
import Mathlib.Algebra.Ring.Commute
import Mathlib.Tactic.Linarith

/-!
# The size of the coefficients

On numbers that are not negative each column of coefficients alternates in sign, so its entries
grow; and since the live rows have the determinant one or minus one, the coefficients stay below the
given numbers. By the law of signs this holds for numbers of any sign.
-/

namespace Aliquot.Euclid

open CheckedInt

namespace State

variable {a b : Int} {s t : State Int} {n : Nat}

/-- The determinant of the coefficients of the live rows is one, and changes its sign with every
step. -/
theorem Reaches.determinant (h : Reaches (start a b) n t) :
    t.current.coeff₁ * t.next.coeff₂ - t.current.coeff₂ * t.next.coeff₁ = (-1) ^ n := by
  induction h with
  | refl => simp [start, zero, one]
  | step _ _ ih =>
    simp only [advance, difference]
    rw [pow_succ]
    linear_combination -ih

/-- The values and the first coefficients combine to the second number. -/
theorem Reaches.cross₁ (h : Reaches (start a b) n t) :
    t.current.coeff₁ * t.next.value - t.next.coeff₁ * t.current.value = (-1) ^ n * b := by
  have hc : t.current.coeff₁ * a + t.current.coeff₂ * b = t.current.value := h.invariant.current
  have hn : t.next.coeff₁ * a + t.next.coeff₂ * b = t.next.value := h.invariant.next
  linear_combination b * h.determinant - t.current.coeff₁ * hn + t.next.coeff₁ * hc

/-- The values and the second coefficients combine to the first number. -/
theorem Reaches.cross₂ (h : Reaches (start a b) n t) :
    t.current.coeff₂ * t.next.value - t.next.coeff₂ * t.current.value = -(-1) ^ n * a := by
  have hc : t.current.coeff₁ * a + t.current.coeff₂ * b = t.current.value := h.invariant.current
  have hn : t.next.coeff₁ * a + t.next.coeff₂ * b = t.next.value := h.invariant.next
  linear_combination -a * h.determinant + t.next.coeff₂ * hc - t.current.coeff₂ * hn

end State

/-- Of the two coefficients the first has the sign `ε` and the second the opposite one, as far as
they are not zero. -/
structure Opposed (ε c d : Int) : Prop where
  left : 0 ≤ ε * c
  right : ε * d ≤ 0

namespace Opposed

variable {ε c d q : Int}

/-- Subtracting a multiple of the second coefficient from the first one keeps the signs apart. -/
theorem step (h : Opposed ε c d) (hq : 0 ≤ q) : Opposed (-ε) d (c - q * d) where
  left := by linarith [h.right]
  right := by linarith [h.left, mul_nonneg hq (neg_nonneg.mpr h.right)]

/-- Such a difference is as large as its two parts together. -/
theorem natAbs_sub_mul (h : Opposed ε c d) (hε : ε * ε = 1) (hq : 0 ≤ q) :
    (c - q * d).natAbs = c.natAbs + (q * d).natAbs := by
  obtain ⟨hc, hd⟩ := h
  rcases mul_self_eq_one_iff.mp hε with rfl | rfl
  · have := mul_nonpos_of_nonneg_of_nonpos hq (by linarith : d ≤ 0)
    omega
  · have := mul_nonneg hq (by linarith : 0 ≤ d)
    omega

/-- A coefficient times the value beside the other one is bounded by what the two products make
together. -/
theorem natAbs_mul_le (h : Opposed ε c d) (hε : ε * ε = 1) {v w k : Int} (hv : 0 ≤ v)
    (hw : 0 ≤ w) (hk : c * w - d * v = ε * k) : d.natAbs * v.natAbs ≤ k.natAbs := by
  rw [← Int.natAbs_mul]
  obtain ⟨hc, hd⟩ := h
  rcases mul_self_eq_one_iff.mp hε with rfl | rfl
  · have := mul_nonneg (by linarith : 0 ≤ c) hw
    have := mul_nonpos_of_nonpos_of_nonneg (by linarith : d ≤ 0) hv
    omega
  · have := mul_nonpos_of_nonpos_of_nonneg (by linarith : c ≤ 0) hw
    have := mul_nonneg (by linarith : 0 ≤ d) hv
    omega

end Opposed

namespace State

variable {a b ε : Int} {s t : State Int} {n : Nat}

/-- The values are not negative, and each column of coefficients alternates in sign, the one
against the other. -/
structure Alternates (ε : Int) (s : State Int) : Prop where
  current : 0 ≤ s.current.value
  next : 0 ≤ s.next.value
  coeff₁ : Opposed ε s.current.coeff₁ s.next.coeff₁
  coeff₂ : Opposed (-ε) s.current.coeff₂ s.next.coeff₂

/-- The first state of numbers that are not negative alternates. -/
theorem alternates_start (ha : 0 ≤ a) (hb : 0 ≤ b) : Alternates 1 (start a b) where
  current := ha
  next := hb
  coeff₁ := by constructor <;> simp [start, one, zero]
  coeff₂ := by constructor <;> simp [start, one, zero]

/-- The quotient of values that are not negative is not negative. -/
theorem Alternates.quotient_nonneg (h : Alternates ε s) : 0 ≤ s.quotient :=
  Int.tdiv_nonneg h.current h.next

/-- The row that a step makes has the remainder as its value. -/
theorem difference_value (s : State Int) :
    s.difference.value = s.current.value.tmod s.next.value := by
  rw [Int.tmod_def, mul_comm]
  rfl

/-- A step turns all signs around. -/
theorem Alternates.advance (h : Alternates ε s) : Alternates (-ε) s.advance where
  current := h.next
  next := by
    change 0 ≤ s.difference.value
    rw [difference_value]
    exact Int.tmod_nonneg _ h.current
  coeff₁ := h.coeff₁.step h.quotient_nonneg
  coeff₂ := h.coeff₂.step h.quotient_nonneg

/-- A run on numbers that are not negative alternates. -/
theorem Reaches.alternates (ha : 0 ≤ a) (hb : 0 ≤ b) (h : Reaches (start a b) n t) :
    Alternates ((-1) ^ n) t := by
  induction h with
  | refl => exact alternates_start ha hb
  | step _ _ ih =>
    rw [pow_succ, mul_neg_one]
    exact ih.advance

/-- The coefficients that a step makes are as large as those that it makes them of, and every
coefficient is bounded by one of the two numbers, measured in the value above it. -/
structure Grows (a b : Nat) (s : State Int) : Prop where
  difference₁ : s.difference.coeff₁.natAbs =
    s.current.coeff₁.natAbs + (s.quotient * s.next.coeff₁).natAbs
  difference₂ : s.difference.coeff₂.natAbs =
    s.current.coeff₂.natAbs + (s.quotient * s.next.coeff₂).natAbs
  next₁ : s.next.coeff₁.natAbs * s.current.value.natAbs ≤ b
  next₂ : s.next.coeff₂.natAbs * s.current.value.natAbs ≤ a

/-- Signs do not change the sizes. -/
theorem Grows.withSigns {p q σ τ : Int} {a b : Nat} (h : Grows a b s) (hp : p * p = 1)
    (hq : q * q = 1) (hσ : σ * σ = 1) (hτ : τ * τ = 1) : Grows a b (s.withSigns p q σ τ) := by
  have hp₁ := natAbs_sign hp
  have hq₁ := natAbs_sign hq
  have hσ₁ := natAbs_sign hσ
  have hτ₁ := natAbs_sign hτ
  constructor
  · rw [difference_withSigns hp hq, quotient_withSigns hp hq]
    simpa only [State.withSigns, Row.withSigns, Int.natAbs_mul, hp₁, hq₁, hσ₁, one_mul]
      using h.difference₁
  · rw [difference_withSigns hp hq, quotient_withSigns hp hq]
    simpa only [State.withSigns, Row.withSigns, Int.natAbs_mul, hp₁, hq₁, hτ₁, one_mul]
      using h.difference₂
  · simpa only [State.withSigns, Row.withSigns, Int.natAbs_mul, hp₁, hq₁, hσ₁, one_mul]
      using h.next₁
  · simpa only [State.withSigns, Row.withSigns, Int.natAbs_mul, hp₁, hq₁, hτ₁, one_mul]
      using h.next₂

/-- The coefficients of an alternating state grow, as its live rows have the determinant one or
minus one. -/
theorem Reaches.grows_of_nonneg (ha : 0 ≤ a) (hb : 0 ≤ b) (h : Reaches (start a b) n t) :
    Grows a.natAbs b.natAbs t := by
  have halt := h.alternates ha hb
  have hε : (-1 : Int) ^ n * (-1) ^ n = 1 := by simp [← mul_pow]
  have hε' : -(-1 : Int) ^ n * -(-1) ^ n = 1 := by rw [neg_mul_neg, hε]
  exact {
    difference₁ := halt.coeff₁.natAbs_sub_mul hε halt.quotient_nonneg
    difference₂ := halt.coeff₂.natAbs_sub_mul hε' halt.quotient_nonneg
    next₁ := halt.coeff₁.natAbs_mul_le hε halt.current halt.next h.cross₁
    next₂ := halt.coeff₂.natAbs_mul_le hε' halt.current halt.next h.cross₂ }

/-- The coefficients grow on numbers of any sign. -/
theorem Reaches.grows (h : Reaches (start a b) n t) : Grows a.natAbs b.natAbs t := by
  obtain ⟨u, hu, rfl⟩ := h.exists_withSigns
  exact (hu.grows_of_nonneg (Int.natCast_nonneg _) (Int.natCast_nonneg _)).withSigns
    (signAt_mul_self ..) (signAt_mul_self ..) (signOf_mul_self a) (signOf_mul_self b)

/-- At the end of a run the current value is the greatest common divisor, with the sign whose turn
it is. -/
theorem Reaches.current_eq (h : Reaches (start a b) n t) (hz : t.next.value = 0) :
    t.current.value = signAt a b n * a.gcd b := by
  have hg := h.invariant.gcd_eq
  rw [hz, Int.gcd_zero_right] at hg
  obtain ⟨u, hu, rfl⟩ := h.exists_withSigns
  have hu₀ := (hu.alternates (Int.natCast_nonneg _) (Int.natCast_nonneg _)).current
  simp only [withSigns, Row.withSigns, Int.natAbs_mul, natAbs_sign (signAt_mul_self ..), one_mul]
    at hg ⊢
  rw [← hg, Int.natAbs_of_nonneg hu₀]

/-- When the two numbers have different signs, the row that is left over at the end of a run has the
absolute values of both as its coefficients, divided by the greatest common divisor. -/
theorem Reaches.next_of_signs_differ (h : Reaches (start a b) n t) (hz : t.next.value = 0)
    (hs : signOf b = -signOf a) :
    t.next.coeff₁ * a.gcd b = b.natAbs ∧ t.next.coeff₂ * a.gcd b = a.natAbs := by
  have hε : (-1 : Int) ^ n * (-1) ^ n = 1 := by simp [← mul_pow]
  have hcurrent : t.current.value = (-1) ^ n * signOf a * a.gcd b := by
    rw [h.current_eq hz, signAt]
    split
    · next hn => rw [(Nat.even_iff.mpr hn).neg_one_pow, one_mul]
    · next hn => rw [(Nat.odd_iff.mpr (by omega)).neg_one_pow, neg_one_mul, hs]
  have h₁ := h.cross₁
  have h₂ := h.cross₂
  rw [hz, hcurrent, mul_zero, zero_sub] at h₁ h₂
  have hσ := signOf_mul_self a
  rw [natAbs_eq_signOf_mul, natAbs_eq_signOf_mul, hs]
  generalize (-1 : Int) ^ n = ε at *
  generalize signOf a = σ at *
  constructor
  · linear_combination (-ε * σ) * h₁ - (t.next.coeff₁ * a.gcd b * σ * σ + σ * b) * hε -
      t.next.coeff₁ * a.gcd b * hσ
  · linear_combination (-ε * σ) * h₂ - (t.next.coeff₂ * a.gcd b * σ * σ - σ * a) * hε -
      t.next.coeff₂ * a.gcd b * hσ

end State

end Aliquot.Euclid
