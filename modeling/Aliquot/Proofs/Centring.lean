import Aliquot.Proofs.Diophantine

/-!
# Centred families of solutions

Centring leaves a remainder of one coordinate by its step, so the pair from which a family is
counted has a coordinate that is smaller than its step. The other coordinate moves along the line of
the equation and is no greater afterwards than the greater one was before.
-/

namespace Aliquot

open CheckedInt

/-- One coordinate of the first pair is smaller than its step. -/
def SolutionFamily.IsCentred (s : SolutionFamily Int) : Prop :=
  s.x₀.natAbs < s.stepX.natAbs ∨ s.y₀.natAbs < s.stepY.natAbs

namespace Diophantine

variable {a b c g : Int} {s : SolutionFamily Int}

/-- A coordinate that is moved back by its quotient becomes smaller than the step. -/
theorem natAbs_sub_tdiv_mul_lt {step : Int} (h : step ≠ 0) (k : Int) :
    (k - k.tdiv step * step).natAbs < step.natAbs := by
  have hmod : k - k.tdiv step * step = k.tmod step := by rw [Int.tmod_def, mul_comm]
  rw [hmod]
  exact natAbs_tmod_lt h k

/-- Centring makes one coordinate smaller than its step, if the first one moves and the second one
moves, too, or has nothing to move to. -/
theorem isCentred_of_center {x y stepX stepY : Int} (hX : stepX ≠ 0) (hY : stepY ≠ 0 ∨ x = 0)
    (h : center x y stepX stepY = .ok s) : s.IsCentred := by
  rw [center_int] at h
  cases h
  unfold SolutionFamily.IsCentred stepsBack
  split
  · exact .inl (natAbs_sub_tdiv_mul_lt hX x)
  · by_cases hz : stepY = 0
    · left
      rw [hz, hY.resolve_left (not_not.mpr hz), Int.tdiv_zero, Int.zero_mul, Int.sub_zero]
      exact Int.natAbs_pos.mpr hX
    · exact .inr (natAbs_sub_tdiv_mul_lt hz y)

/-- A family that is found comes from the coefficients for the divisor, multiplied by what is left
of the constant, by centring. -/
theorem exists_center_of_solve (h : solve a b c = .ok (s, g)) :
    ∃ A B k p q, g ≠ 0 ∧ a = g * A ∧ b = g * B ∧ c = g * k ∧ p * A + q * B = 1 ∧
      Euclid.xgcd a b = .ok ⟨g, p, q⟩ ∧ center (k * p) (k * q) B (-A) = .ok s := by
  obtain ⟨⟨v, p, q⟩, hx, hcomb, hg⟩ := Euclid.exists_xgcd a b
  rw [solve_of_xgcd hx] at h
  split at h
  · split at h <;> cases h
  next hz =>
  split at h
  · next hc =>
    obtain ⟨A, hA⟩ := (dvd_iff_gcd_dvd hg).mpr (Int.gcd_dvd_left ..)
    obtain ⟨B, hB⟩ := (dvd_iff_gcd_dvd hg).mpr (Int.gcd_dvd_right ..)
    obtain ⟨k, hk⟩ := hc
    dsimp only at hA hB hk hz
    have hone : p * A + q * B = 1 := by
      apply Int.eq_of_mul_eq_mul_left hz
      have hcomb : p * a + q * b = v := hcomb
      linear_combination hcomb - p * hA - q * hB
    rw [hA, hB, hk, solveWith_mul hz, center_int] at h
    cases h
    exact ⟨A, B, k, p, q, hz, hA, hB, hk, hone, hx, center_int ..⟩
  · cases h

/-- A family that is found lies along the line of its equation. -/
theorem alongLine_of_solve (h : solve a b c = .ok (s, g)) : s.AlongLine g a b c := by
  obtain ⟨A, B, k, p, q, hg, rfl, rfl, rfl, hone, -, hs⟩ := exists_center_of_solve h
  rw [center_int] at hs
  cases hs
  refine ⟨?_, rfl, Int.mul_neg ..⟩
  dsimp only
  linear_combination g * k * hone

/-- A family that is found is centred when the second unknown occurs in its equation. -/
theorem isCentred_of_solve (hb : b ≠ 0) (h : solve a b c = .ok (s, g)) : s.IsCentred := by
  obtain ⟨A, B, k, p, q, hg, rfl, rfl, rfl, -, hx, hs⟩ := exists_center_of_solve h
  refine isCentred_of_center (right_ne_zero_of_mul hb) ?_ hs
  by_cases hA : A = 0
  · -- without the first unknown its coefficient is zero
    rw [hA, Int.mul_zero, Euclid.xgcd_of_dvd hb (dvd_zero _), Except.ok.injEq,
      Euclid.Row.mk.injEq] at hx
    rw [← hx.2.1]
    exact .inr (Int.mul_zero k)
  · exact .inl (Int.neg_ne_zero.mpr hA)

section Move

variable {x y u v k : Int}

/-- What lies between zero and a number still does so after both are multiplied. -/
theorem mul_between (h : 0 ≤ y ∧ y ≤ x ∨ x ≤ y ∧ y ≤ 0) (v : Int) :
    0 ≤ v * y ∧ v * y ≤ v * x ∨ v * x ≤ v * y ∧ v * y ≤ 0 := by
  rcases le_total 0 v with hv | hv
  · rcases h with ⟨h₀, h⟩ | ⟨h, h₀⟩
    · exact .inl ⟨mul_nonneg hv h₀, mul_le_mul_of_nonneg_left h hv⟩
    · exact .inr ⟨mul_le_mul_of_nonneg_left h hv, mul_nonpos_of_nonneg_of_nonpos hv h₀⟩
  · rcases h with ⟨h₀, h⟩ | ⟨h, h₀⟩
    · exact .inr ⟨mul_le_mul_of_nonpos_left h hv, mul_nonpos_of_nonpos_of_nonneg hv h₀⟩
    · exact .inl ⟨mul_nonneg_of_nonpos_of_nonpos hv h₀, mul_le_mul_of_nonpos_left h hv⟩

/-- A point on the line `u*y - v*x = k` that is moved back along `(u, v)` by the quotient of its
first coordinate gets no further from zero in that coordinate. In the other one it gets at most as
far as it was or as the constant is. -/
theorem natAbs_move_le (hline : u * y - v * x = k) :
    (x - x.tdiv u * u).natAbs ≤ x.natAbs ∧ (y - x.tdiv u * v).natAbs ≤ max y.natAbs k.natAbs := by
  by_cases hu : u = 0
  · rw [hu, Int.tdiv_zero, Int.zero_mul, Int.zero_mul, Int.sub_zero, Int.sub_zero]
    exact ⟨Nat.le_refl _, Nat.le_max_left ..⟩
  have hmod : x - x.tdiv u * u = x.tmod u := by rw [Int.tmod_def, mul_comm]
  have hbetween := tmod_between x u
  refine ⟨by omega, ?_⟩
  -- as the first coordinate moves toward zero, the other one moves toward `k/u`
  have hnew : u * (y - x.tdiv u * v) = k + v * x.tmod u := by
    rw [← hmod, ← hline]
    ring
  have hold : u * y = k + v * x := by linear_combination hline
  have hle : (u * (y - x.tdiv u * v)).natAbs ≤ max (u * y).natAbs k.natAbs := by
    have := mul_between hbetween v
    omega
  rw [Int.natAbs_mul, Int.natAbs_mul] at hle
  have hk : k.natAbs ≤ u.natAbs * k.natAbs := Nat.le_mul_of_pos_left _ (Int.natAbs_pos.mpr hu)
  refine Nat.le_of_mul_le_mul_left ?_ (Int.natAbs_pos.mpr hu)
  rw [← Nat.mul_max_mul_left]
  omega

end Move

/-- Centring a multiple of coefficients that combine the steps to one makes the greater coordinate
no greater. -/
theorem max_natAbs_center_le {A B k p q : Int} (hone : p * A + q * B = 1)
    (h : center (k * p) (k * q) B (-A) = .ok s) :
    max s.x₀.natAbs s.y₀.natAbs ≤ max (k * p).natAbs (k * q).natAbs := by
  have hline : B * (k * q) - -A * (k * p) = k := by linear_combination k * hone
  have hk : k.natAbs ≤ max (k * p).natAbs (k * q).natAbs := by
    rw [Int.natAbs_mul, Int.natAbs_mul]
    by_cases hp : p = 0
    · have hq : q ≠ 0 := by
        rintro rfl
        simp [hp] at hone
      exact le_max_of_le_right (Nat.le_mul_of_pos_right _ (Int.natAbs_pos.mpr hq))
    · exact le_max_of_le_left (Nat.le_mul_of_pos_right _ (Int.natAbs_pos.mpr hp))
  rw [center_int] at h
  cases h
  unfold stepsBack
  split
  · have := natAbs_move_le hline
    dsimp only
    omega
  · have hswap : -A * (k * p) - B * (k * q) = -k := by linear_combination -hline
    have := natAbs_move_le hswap
    dsimp only
    omega

/-- On the line of an equation a pair with one coordinate below its step has products with the
coefficients that are bounded by the constant and the product of the coefficients. -/
theorem natAbs_mul_lt_of_isCentred (ha : a ≠ 0) (hb : b ≠ 0) (hline : s.AlongLine g a b c)
    (hc : s.IsCentred) : (a * s.x₀).natAbs < c.natAbs + (a * s.stepX).natAbs ∧
      (b * s.y₀).natAbs < c.natAbs + (a * s.stepX).natAbs := by
  have hon := hline.start
  have hsteps : (a * s.stepX).natAbs = (b * s.stepY).natAbs := by
    have : a * s.stepX + b * s.stepY = 0 := by
      linear_combination s.stepX * hline.stepY - s.stepY * hline.stepX
    omega
  rcases hc with hx | hy
  · have hlt : (a * s.x₀).natAbs < (a * s.stepX).natAbs := by
      rw [Int.natAbs_mul, Int.natAbs_mul]
      exact Nat.mul_lt_mul_of_pos_left hx (Int.natAbs_pos.mpr ha)
    omega
  · have hlt : (b * s.y₀).natAbs < (b * s.stepY).natAbs := by
      rw [Int.natAbs_mul, Int.natAbs_mul]
      exact Nat.mul_lt_mul_of_pos_left hy (Int.natAbs_pos.mpr hb)
    omega

/-- Without the second unknown the first one is the quotient. -/
theorem first_of_solve_zero_right (h : solve a 0 c = .ok (s, g)) : s.x₀ = c / a ∧ s.y₀ = 0 := by
  obtain ⟨A, B, k, p, q, hg, -, hB, rfl, -, hx, hs⟩ := exists_center_of_solve h
  obtain rfl : B = 0 := (mul_eq_zero.mp hB.symm).resolve_left hg
  rw [Euclid.xgcd_zero_right] at hx
  cases hx
  rw [mul_one, mul_zero, center_int] at hs
  cases hs
  have hback : stepsBack k 0 0 (-A) = 0 := by
    unfold stepsBack
    split
    · exact Int.tdiv_zero k
    · exact Int.zero_tdiv _
  rw [hback, Int.mul_ediv_cancel_left _ hg]
  simp

/-- Without the first unknown the second one is the quotient. -/
theorem first_of_solve_zero_left (h : solve 0 b c = .ok (s, g)) : s.x₀ = 0 ∧ s.y₀ = c / b := by
  obtain ⟨A, B, k, p, q, hg, hA, hB, rfl, hone, hx, hs⟩ := exists_center_of_solve h
  obtain rfl : A = 0 := (mul_eq_zero.mp hA.symm).resolve_left hg
  have hb : b ≠ 0 := by
    rintro rfl
    obtain rfl : B = 0 := (mul_eq_zero.mp hB.symm).resolve_left hg
    simp at hone
  rw [Euclid.xgcd_of_dvd hb (dvd_zero b)] at hx
  cases hx
  rw [mul_zero, mul_one, Int.neg_zero, center_int] at hs
  cases hs
  have hback : stepsBack 0 k B 0 = 0 := by
    unfold stepsBack
    split
    · exact Int.zero_tdiv _
    · exact Int.tdiv_zero k
  rw [hback, Int.mul_ediv_cancel_left _ hg]
  simp

/-- The first pair of the family of an equation is no greater than the one that the coefficients for
the divisor give. With two unknowns one of its coordinates is smaller than its step, and the product
of either one with its coefficient is bounded by the constant and the least common multiple of the
coefficients; with one unknown it is the quotient beside zero. All quotients are exact. -/
theorem solve_centres_first_pair (h : solve a b c = .ok (s, g)) :
    ∃ p q x y, Euclid.xgcd a b = .ok ⟨g, p, q⟩ ∧ s.at 0 = .ok (x, y) ∧
      (g ≠ 0 ∧ g ∣ a ∧ g ∣ b ∧ g ∣ c) ∧
      max x.natAbs y.natAbs ≤ max (c * p / g).natAbs (c * q / g).natAbs ∧
      (a ≠ 0 → b ≠ 0 → (x.natAbs < (b / g).natAbs ∨ y.natAbs < (a / g).natAbs) ∧
        (a * x).natAbs < c.natAbs + (a * b / g).natAbs ∧
        (b * y).natAbs < c.natAbs + (a * b / g).natAbs) ∧
      (b = 0 → x = c / a ∧ y = 0) ∧ (a = 0 → x = 0 ∧ y = c / b) := by
  obtain ⟨A, B, k, p, q, hg, hA, hB, hk, hone, hx, hs⟩ := exists_center_of_solve h
  have hline := alongLine_of_solve h
  refine ⟨p, q, s.x₀, s.y₀, hx, SolutionFamily.at_eq_ok_iff.mpr ⟨by simp, by simp⟩,
    ⟨hg, ⟨A, hA⟩, ⟨B, hB⟩, ⟨k, hk⟩⟩, ?_, fun ha hb ↦ ⟨?_, ?_⟩, ?_, ?_⟩
  · rw [hk, mul_assoc, mul_assoc, Int.mul_ediv_cancel_left _ hg, Int.mul_ediv_cancel_left _ hg]
    exact max_natAbs_center_le hone hs
  · have hstepX : b / g = s.stepX := by
      rw [← hline.stepX]
      exact Int.mul_ediv_cancel_left _ hg
    have hstepY : a / g = -s.stepY := by
      rw [← neg_neg a, ← hline.stepY, ← Int.mul_neg]
      exact Int.mul_ediv_cancel_left _ hg
    rw [hstepX, hstepY, Int.natAbs_neg]
    exact isCentred_of_solve hb h
  · have hstep : a * b / g = a * s.stepX := by
      rw [← hline.stepX, mul_left_comm]
      exact Int.mul_ediv_cancel_left _ hg
    rw [hstep]
    exact natAbs_mul_lt_of_isCentred ha hb hline (isCentred_of_solve hb h)
  · rintro rfl
    exact first_of_solve_zero_right h
  · rintro rfl
    exact first_of_solve_zero_left h

/-- The first solution of `6*x - 10*y = 28` is `(3, -1)`, where the coefficients for the divisor
give `(28, 14)`; those of `3*x = 12` and of `-4*y = 12` are the quotients. -/
theorem solve_six_ten_twenty_eight :
    let family : SolutionFamily Int := ⟨3, -1, -5, -3⟩
    solve (6 : Int) (-10) 28 = .ok (family, 2) ∧
      (∃ p q x y, Euclid.xgcd (6 : Int) (-10) = .ok ⟨2, p, q⟩ ∧ family.at 0 = .ok (x, y) ∧
        max x.natAbs y.natAbs ≤ max (28 * p / 2).natAbs (28 * q / 2).natAbs ∧
        (x.natAbs < 5 ∨ y.natAbs < 3) ∧ (6 * x).natAbs < 28 + 30 ∧ (-10 * y).natAbs < 28 + 30) ∧
      solve (3 : Int) 0 12 = .ok (⟨4, 0, 0, -1⟩, 3) ∧
      (∃ x y, SolutionFamily.at (⟨4, 0, 0, -1⟩ : SolutionFamily Int) 0 = .ok (x, y) ∧
        x = 12 / 3 ∧ y = 0) ∧
      solve (0 : Int) (-4) 12 = .ok (⟨0, -3, 1, 0⟩, -4) ∧
      ∃ x y, SolutionFamily.at (⟨0, -3, 1, 0⟩ : SolutionFamily Int) 0 = .ok (x, y) ∧
        x = 0 ∧ y = 12 / -4 := by
  intro family
  have h : solve (6 : Int) (-10) 28 = .ok (family, 2) := by decide +kernel
  have hright : solve (3 : Int) 0 12 = .ok (⟨4, 0, 0, -1⟩, 3) := by decide +kernel
  have hleft : solve (0 : Int) (-4) 12 = .ok (⟨0, -3, 1, 0⟩, -4) := by decide +kernel
  obtain ⟨p, q, x, y, hx, hat, -, hmax, hboth, -⟩ := solve_centres_first_pair h
  obtain ⟨-, -, x₁, y₁, -, hat₁, -, -, -, hquo₁, -⟩ := solve_centres_first_pair hright
  obtain ⟨-, -, x₂, y₂, -, hat₂, -, -, -, -, hquo₂⟩ := solve_centres_first_pair hleft
  exact ⟨h, ⟨p, q, x, y, hx, hat, hmax, hboth (by decide) (by decide)⟩,
    hright, ⟨x₁, y₁, hat₁, hquo₁ rfl⟩, hleft, x₂, y₂, hat₂, hquo₂ rfl⟩

end Diophantine

end Aliquot
