import Aliquot.Proofs.Euclid.Coefficients
import Aliquot.Proofs.Range
import Aliquot.Proofs.Simulation.Euclid
import Mathlib.Data.Nat.Prime.Basic

/-!
# Overflows of the extended algorithm

A step holds its quotient, the products and the differences of all three columns. The coefficients
stay below the two numbers divided by their greatest common divisor, so a type that represents these
bounds represents everything that is computed, the row that is left over at the end included. A type
that reaches further below zero than above it fails on that last row alone.
-/

namespace Aliquot.Euclid

open CheckedInt

variable {α : Type} [CheckedInt α] {a b least greatest : Int} {n : Nat}

/-- The type holds the three numbers of a row. -/
structure Row.Held (α : Type) [CheckedInt α] (row : Row Int) : Prop where
  value : Holds α row.value
  coeff₁ : Holds α row.coeff₁
  coeff₂ : Holds α row.coeff₂

/-- The row with its numbers multiplied by `q`. -/
def Row.scale (q : Int) (row : Row Int) : Row Int :=
  ⟨q * row.value, q * row.coeff₁, q * row.coeff₂⟩

/-- A row that stands for integers holds them. -/
theorem Row.Reads.held {row : Row α} {ints : Row Int} (h : row.Reads ints) : ints.Held α :=
  ⟨h.value.holds, h.coeff₁.holds, h.coeff₂.holds⟩

/-- A multiple of a row is subtracted when the type holds the products and the differences. -/
theorem Row.Reads.subMul_attains {row other : Row α} {q : α} {ints others : Row Int} {k : Int}
    (h : row.Reads ints) (hq : Aliquot.Reads q k) (ho : other.Reads others)
    (hm : (others.scale k).Held α)
    (hd : Row.Held α ⟨ints.value - k * others.value, ints.coeff₁ - k * others.coeff₁,
      ints.coeff₂ - k * others.coeff₂⟩) :
    Attains Row.Reads (row.subMul q other) ⟨ints.value - k * others.value,
      ints.coeff₁ - k * others.coeff₁, ints.coeff₂ - k * others.coeff₂⟩ := by
  apply (Attains.mul hq ho.value hm.value).bind
  intro _ hp
  apply (Attains.sub h.value hp hd.value).bind
  intro _ hv
  apply (Attains.mul hq ho.coeff₁ hm.coeff₁).bind
  intro _ hp
  apply (Attains.sub h.coeff₁ hp hd.coeff₁).bind
  intro _ h₁
  apply (Attains.mul hq ho.coeff₂ hm.coeff₂).bind
  intro _ hp
  apply (Attains.sub h.coeff₂ hp hd.coeff₂).bind
  intro _ h₂
  exact ⟨_, rfl, hv, h₁, h₂⟩

namespace State

/-- The type holds every number that a step computes. -/
structure StepHeld (α : Type) [CheckedInt α] (s : State Int) : Prop where
  quotient : Holds α s.quotient
  products : (s.next.scale s.quotient).Held α
  differences : s.difference.Held α

/-- A step is made when the type holds what it computes. -/
theorem Reads.step_attains {s : State α} {t : State Int} (h : s.Reads t)
    (hz : t.next.value ≠ 0) (ht : t.StepHeld α) : Attains State.Reads s.step t.advance := by
  apply (Attains.quo h.current.value h.next.value hz ht.quotient).bind
  intro _ hq
  apply (h.current.subMul_attains hq h.next ht.products ht.differences).bind
  intro _ hrow
  exact ⟨_, rfl, h.current, h.next, hrow⟩

/-- The greatest common divisor is at most the next value of a run that is not over. -/
theorem Reaches.gcd_le {t : State Int} (h : Reaches (start a b) n t) (hz : t.next.value ≠ 0) :
    a.gcd b ≤ t.next.value.natAbs := by
  rw [← h.invariant.gcd_eq]
  exact Nat.le_of_dvd (Int.natAbs_pos.mpr hz)
    (Int.natAbs_dvd_natAbs.mpr (Int.gcd_dvd_right ..))

/-- A coefficient is in range when it is bounded by a number, measured in a value that is not below
the greatest common divisor. -/
theorem natAbs_le_of_mul_le {c v g k : Nat} (hG : 0 ≤ greatest) (hv : 0 < v) (hg : g ≤ v)
    (hk : (k : Int) ≤ greatest * g) (h : c * v ≤ k) : (c : Int) ≤ greatest := by
  have hgv : greatest * g ≤ greatest * v := by gcongr
  have hcv : (c : Int) * v ≤ greatest * v := by
    have : ((c * v : Nat) : Int) ≤ k := Int.ofNat_le.mpr h
    push_cast at this
    linarith
  exact le_of_mul_le_mul_right hcv (by omega)

/-- The quotient is no larger than one of its products with the coefficients, as these are not both
zero. -/
theorem Reaches.natAbs_quotient_le {t : State Int} (h : Reaches (start a b) n t) :
    t.quotient.natAbs ≤ (t.quotient * t.next.coeff₁).natAbs ∨
      t.quotient.natAbs ≤ (t.quotient * t.next.coeff₂).natAbs := by
  rw [Int.natAbs_mul, Int.natAbs_mul]
  by_cases h₁ : t.next.coeff₁ = 0
  · refine .inr (Nat.le_mul_of_pos_right _ (Int.natAbs_pos.mpr fun h₂ ↦ ?_))
    have hdet := h.determinant
    rw [h₁, h₂, mul_zero, mul_zero, sub_zero] at hdet
    exact pow_ne_zero n (by decide) hdet.symm
  · exact .inl (Nat.le_mul_of_pos_right _ (Int.natAbs_pos.mpr h₁))

/-- A type holds what a step computes when it holds the live values and both given numbers divided
by their greatest common divisor. -/
theorem Reaches.stepHeld {t : State Int} (hr : HasRange α least greatest)
    (ha : (a.natAbs : Int) ≤ greatest * a.gcd b) (hb : (b.natAbs : Int) ≤ greatest * a.gcd b)
    (h : Reaches (start a b) n t) (hz : t.next.value ≠ 0) (hc : Holds α t.current.value) :
    t.StepHeld α := by
  have hG := hr.one_le
  have hv := Int.natAbs_pos.mpr hz
  have hg := h.gcd_le hz
  have hnext := (h.step hz).grows
  have hd₁ : (t.difference.coeff₁.natAbs : Int) ≤ greatest :=
    natAbs_le_of_mul_le (by omega) hv hg hb hnext.next₁
  have hd₂ : (t.difference.coeff₂.natAbs : Int) ≤ greatest :=
    natAbs_le_of_mul_le (by omega) hv hg ha hnext.next₂
  have hp₁ : ((t.quotient * t.next.coeff₁).natAbs : Int) ≤ greatest := by
    have := h.grows.difference₁
    omega
  have hp₂ : ((t.quotient * t.next.coeff₂).natAbs : Int) ≤ greatest := by
    have := h.grows.difference₂
    omega
  have hq : (t.quotient.natAbs : Int) ≤ greatest := by
    have := h.natAbs_quotient_le
    omega
  -- the values may be as far below zero as the type reaches, so it is their sign that keeps them
  have hrem := tmod_between t.current.value t.next.value
  rw [← difference_value] at hrem
  have hprod : (t.next.scale t.quotient).value = t.current.value - t.difference.value :=
    (sub_sub_cancel ..).symm
  exact {
    quotient := hr.holds_of_natAbs_le hq
    products := ⟨hr.holds_of_between hc (by omega), hr.holds_of_natAbs_le hp₁,
      hr.holds_of_natAbs_le hp₂⟩
    differences := ⟨hr.holds_of_between hc hrem, hr.holds_of_natAbs_le hd₁,
      hr.holds_of_natAbs_le hd₂⟩ }

/-- A run in such a type ends: by induction on its steps, each of which has what it needs. -/
theorem Reads.exists_run {s : State α} {t : State Int} (hr : HasRange α least greatest)
    (ha : (a.natAbs : Int) ≤ greatest * a.gcd b) (hb : (b.natAbs : Int) ≤ greatest * a.gcd b)
    (h : s.Reads t) (ht : Reaches (State.start a b) n t) : ∃ u, s.run = .ok u := by
  induction s using State.run.induct generalizing t n with
  | case1 s hs => exact ⟨s, run_of_isFinished hs⟩
  | case2 s hs e he =>
    have hz : t.next.value ≠ 0 := mt isFinished_iff.mpr (h.isFinished_eq ▸ hs)
    obtain ⟨u, hu, -⟩ := h.step_attains hz (ht.stepHeld hr ha hb hz h.current.held.value)
    rw [he] at hu
    cases hu
  | case3 s hs u hu ih =>
    have hz : t.next.value ≠ 0 := mt isFinished_iff.mpr (h.isFinished_eq ▸ hs)
    obtain ⟨v, hv, hread⟩ := h.step_attains hz (ht.stepHeld hr ha hb hz h.current.held.value)
    rw [hu] at hv
    cases hv
    rw [run_of_not_isFinished hs, hu]
    exact ih hread (ht.step hz)

end State

/-- The extended algorithm ends in a type that represents both numbers divided by their greatest
common divisor. -/
theorem exists_xgcd_of_le {x y : α} (hr : HasRange α least greatest) (hx : Reads x a)
    (hy : Reads y b) (ha : (a.natAbs : Int) ≤ greatest * a.gcd b)
    (hb : (b.natAbs : Int) ≤ greatest * a.gcd b) : ∃ row, xgcd x y = .ok row := by
  obtain ⟨u, hu⟩ := (State.Reads.start hx hy).exists_run hr ha hb .refl
  refine ⟨u.current, ?_⟩
  rw [xgcd, hu]
  rfl

/-- The extended algorithm overflows in a type that does not hold the row that is left over. -/
theorem xgcd_overflows {x y : α} {t : State Int} (hx : Reads x a) (hy : Reads y b)
    (ht : (State.start a b).run = .ok t) (hn : ¬t.next.Held α) :
    FailsWith (xgcd x y) .overflow := by
  have h := (State.Reads.start hx hy).run
  rw [ht] at h
  obtain ⟨s, -, hs⟩ | ⟨e, he, ho⟩ := h.ok_or_overflow
  · exact absurd hs.next.held hn
  · rw [xgcd, he]
    exact failsWith_error.mpr ho

section Range

variable {x y : α}

/-- Numbers whose absolute values are in range, or that are even, are in range when divided by their
greatest common divisor. -/
theorem natAbs_le_mul_gcd (hr : HasRange α least greatest) (hx : Reads x a) (hy : Reads y b)
    (h : (a.natAbs : Int) ≤ greatest ∧ (b.natAbs : Int) ≤ greatest ∨
      (2 : Int) ∣ a ∧ (2 : Int) ∣ b) :
    (a.natAbs : Int) ≤ greatest * a.gcd b ∧ (b.natAbs : Int) ≤ greatest * a.gcd b := by
  have hG := hr.one_le
  have hl := hr.le_least
  have ha := hr.of_reads hx
  have hb := hr.of_reads hy
  rcases Nat.eq_zero_or_pos (a.gcd b) with hg | hg
  · obtain ⟨rfl, rfl⟩ := Int.gcd_eq_zero_iff.mp hg
    simp
  rcases h with h | ⟨ha₂, hb₂⟩
  · have : greatest * 1 ≤ greatest * a.gcd b := by gcongr; omega
    omega
  · have h₂ : 2 ≤ a.gcd b := Nat.le_of_dvd hg (Int.ofNat_dvd.mp (Int.dvd_coe_gcd ha₂ hb₂))
    have : greatest * 2 ≤ greatest * a.gcd b := by gcongr; omega
    omega

/-- The extended algorithm ends on such numbers. -/
theorem exists_xgcd_of_small (hr : HasRange α least greatest) (hx : Reads x a) (hy : Reads y b)
    (h : (a.natAbs : Int) ≤ greatest ∧ (b.natAbs : Int) ≤ greatest ∨
      (2 : Int) ∣ a ∧ (2 : Int) ∣ b) : ∃ row, xgcd x y = .ok row := by
  obtain ⟨hag, hbg⟩ := natAbs_le_mul_gcd hr hx hy h
  exact exists_xgcd_of_le hr hx hy hag hbg

/-- A type that reaches one further below zero than above it does not hold the row that is left over
for its least number and a positive one that shares no divisor with it. -/
theorem xgcd_overflows_of_least (hr : HasRange α least greatest) (hx : Reads x a) (hy : Reads y b)
    (hg : a.gcd b = 1)
    (h : a = -greatest - 1 ∧ 0 < b ∨ b = -greatest - 1 ∧ 0 < a) :
    FailsWith (xgcd x y) .overflow := by
  have hG := hr.one_le
  obtain ⟨n, t, ht, hz, hrun⟩ := State.exists_reaches (.start a b)
  have hs : signOf b = -signOf a := by
    unfold signOf
    omega
  obtain ⟨h₁, h₂⟩ := ht.next_of_signs_differ hz hs
  rw [hg, Nat.cast_one, mul_one] at h₁ h₂
  refine xgcd_overflows hx hy hrun fun hheld ↦ ?_
  have := hr.holds_iff.mp hheld.coeff₁
  have := hr.holds_iff.mp hheld.coeff₂
  omega

end Range

/-- The least number of a format with a sign is a power of two, with a minus sign. -/
theorem min_eq_neg_twoPow {f : Format} (h : f.isSigned = true) :
    f.min = -(twoPow (f.bits - 1) : Int) :=
  if_pos h

/-- The least number of a format with a sign is even. -/
theorem two_dvd_min {f : Format} (h : f.isSigned = true) : (2 : Int) ∣ f.min := by
  have hb := f.eight_le_bits
  rw [min_eq_neg_twoPow h, twoPow_eq_two_mul (by omega)]
  exact Int.dvd_neg.mpr ⟨_, Int.natCast_mul ..⟩

/-- The least number of a format with a sign shares no divisor with an odd number. -/
theorem gcd_min {f : Format} (h : f.isSigned = true) {k : Int} (hk : Odd k) : f.min.gcd k = 1 := by
  rw [min_eq_neg_twoPow h, Int.neg_gcd]
  exact Nat.Coprime.pow_left _ (Nat.coprime_two_left.mpr (Int.natAbs_odd.mpr hk))

/-- Signed magnitudes hold all that the extended algorithm computes. -/
theorem exists_xgcd_signMagnitude {w : Width} (a b : SignMagnitude w) :
    ∃ row, xgcd a b = .ok row := by
  have hr := HasRange.signMagnitude w
  have ha := hr.of_reads (x := a) rfl
  have hb := hr.of_reads (x := b) rfl
  exact exists_xgcd_of_small hr (x := a) (y := b) rfl rfl (.inl (by omega))

section Fixed

variable {f : Format} {a b : Fixed f}

/-- Fixed-width integers hold all that the extended algorithm computes, unless one number is the
least one and the other is odd. -/
theorem exists_xgcd_fixed (hf : f.isSigned = true)
    (h : ¬(a.val = f.min ∧ Odd b.val ∨ b.val = f.min ∧ Odd a.val)) : ∃ row, xgcd a b = .ok row := by
  have hr := HasRange.fixed hf
  have hmin := Format.min_eq_of_isSigned hf
  have htwo := two_dvd_min hf
  have ha := a.represents_val
  have hb := b.represents_val
  simp only [not_or, not_and, Int.not_odd_iff_even, even_iff_two_dvd] at h
  have hsmall : (a.val.natAbs : Int) ≤ f.max ∧ (b.val.natAbs : Int) ≤ f.max ∨
      (2 : Int) ∣ a.val ∧ (2 : Int) ∣ b.val := by
    by_cases hamin : a.val = f.min
    · exact .inr ⟨hamin ▸ htwo, h.1 hamin⟩
    · by_cases hbmin : b.val = f.min
      · exact .inr ⟨h.2 hbmin, hbmin ▸ htwo⟩
      · unfold Format.Represents at ha hb
        omega
  exact exists_xgcd_of_small hr (x := a) (y := b) rfl rfl hsmall

/-- The least number and a positive odd one make fixed-width integers overflow. -/
theorem xgcd_overflows_fixed (hf : f.isSigned = true)
    (h : a.val = f.min ∧ Odd b.val ∧ 0 < b.val ∨ b.val = f.min ∧ Odd a.val ∧ 0 < a.val) :
    FailsWith (xgcd a b) .overflow := by
  have hr := HasRange.fixed hf
  have hmin := Format.min_eq_of_isSigned hf
  apply xgcd_overflows_of_least hr (x := a) (y := b) rfl rfl
  · rcases h with ⟨ha, hodd, -⟩ | ⟨hb, hodd, -⟩
    · exact (congrArg (Int.gcd · b.val) ha).trans (gcd_min hf hodd)
    · exact (Int.gcd_comm ..).trans ((congrArg (Int.gcd · a.val) hb).trans (gcd_min hf hodd))
  · rcases h with ⟨ha, -, hpos⟩ | ⟨hb, -, hpos⟩
    · exact .inl ⟨ha.trans hmin, hpos⟩
    · exact .inr ⟨hb.trans hmin, hpos⟩

end Fixed

/-- The extended algorithm never fails on signed magnitudes. On fixed-width integers with a sign it
fails at most where one number is the least one and the other is odd, and there it overflows
whenever the other is positive. -/
theorem xgcd_fails_only_at_least :
    (∀ (w : Width) (a b : SignMagnitude w), ∃ row, xgcd a b = .ok row) ∧
    ∀ f : Format, f.isSigned = true → ∀ a b : Fixed f,
      (¬(a.val = f.min ∧ Odd b.val ∨ b.val = f.min ∧ Odd a.val) → ∃ row, xgcd a b = .ok row) ∧
      (a.val = f.min ∧ Odd b.val ∧ 0 < b.val ∨ b.val = f.min ∧ Odd a.val ∧ 0 < a.val →
        FailsWith (xgcd a b) .overflow) :=
  ⟨fun _ ↦ exists_xgcd_signMagnitude, fun _ hf _ _ ↦
    ⟨exists_xgcd_fixed hf, xgcd_overflows_fixed hf⟩⟩

/-- In eight bits the extended algorithm ends on -128 and 96, and overflows on -128 and 3. -/
theorem xgcd_at_least_int8 :
    let f := Format.signed .w8
    let least : Fixed f := ⟨-128, by decide, by decide⟩
    let even : Fixed f := ⟨96, by decide, by decide⟩
    let odd : Fixed f := ⟨3, by decide, by decide⟩
    f.isSigned = true ∧
      ¬(least.val = f.min ∧ Odd even.val ∨ even.val = f.min ∧ Odd least.val) ∧
      (∃ row, xgcd least even = .ok row) ∧
      (least.val = f.min ∧ Odd odd.val ∧ 0 < odd.val) ∧
      FailsWith (xgcd least odd) .overflow := by
  intro f least even odd
  have heven : ¬(least.val = f.min ∧ Odd even.val ∨ even.val = f.min ∧ Odd least.val) := by decide
  have hodd : least.val = f.min ∧ Odd odd.val ∧ 0 < odd.val := by decide
  obtain ⟨hok, -⟩ := xgcd_fails_only_at_least.2 f rfl least even
  obtain ⟨-, hfail⟩ := xgcd_fails_only_at_least.2 f rfl least odd
  exact ⟨rfl, heven, hok heven, hodd, hfail (.inl hodd)⟩

end Aliquot.Euclid
