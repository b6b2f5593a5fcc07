import Aliquot.Diophantine
import Aliquot.Proofs.Euclid.Bezout
import Aliquot.Proofs.Report
import Mathlib.Tactic.LinearCombination

/-!
# The solutions of linear equations over unbounded integers

An equation has a solution when the greatest common divisor of its coefficients divides the
constant. The family that is found then has every solution at exactly one index: the steps are
coprime, as the coefficients of the extended algorithm combine them to one.
-/

namespace Aliquot

open CheckedInt

namespace SolutionFamily

/-- The family has the solutions of `a*x + b*y = c`, each of them at one index, and nothing else. -/
structure Parametrizes (s : SolutionFamily Int) (a b c : Int) : Prop where
  sound : ∀ i, ∃ x y, s.at i = .ok (x, y) ∧ a * x + b * y = c
  complete : ∀ x y, a * x + b * y = c → ∃! i, s.at i = .ok (x, y)

variable {s : SolutionFamily Int} {a b c : Int}

/-- The pair with an index is made without a failure. -/
theorem at_int (s : SolutionFamily Int) (i : Int) :
    s.at i = .ok (s.x₀ + s.stepX * i, s.y₀ + s.stepY * i) := rfl

/-- The pair with an index has the coordinates that the steps lead to. -/
theorem at_eq_ok_iff {i x y : Int} :
    s.at i = .ok (x, y) ↔ s.x₀ + s.stepX * i = x ∧ s.y₀ + s.stepY * i = y := by
  rw [at_int, Except.ok.injEq, Prod.mk.injEq]

/-- The first pairs are made without a failure. -/
theorem take_int (s : SolutionFamily Int) (start : Int) (n : Nat) :
    s.take start n = .ok ((List.range n).map fun i : Nat ↦
      (s.x₀ + s.stepX * (start + i), s.y₀ + s.stepY * (start + i))) := by
  unfold take
  exact List.mapM_pure ..

/-- The family starts at a solution of `a*x + b*y = c` and has the steps `b/g` and `-a/g`. -/
structure AlongLine (s : SolutionFamily Int) (g a b c : Int) : Prop where
  start : a * s.x₀ + b * s.y₀ = c
  stepX : g * s.stepX = b
  stepY : g * s.stepY = -a

namespace AlongLine

variable {g p q : Int}

/-- The steps from a solution lead to solutions. -/
theorem sound (h : s.AlongLine g a b c) (i : Int) :
    a * (s.x₀ + s.stepX * i) + b * (s.y₀ + s.stepY * i) = c := by
  linear_combination h.start - s.stepY * i * h.stepX + s.stepX * i * h.stepY

/-- The divisor of an equation in which `y` occurs is not zero. -/
theorem divisor_ne_zero (h : s.AlongLine g a b c) (hb : b ≠ 0) : g ≠ 0 := by
  rintro rfl
  exact hb (h.stepX.symm.trans (Int.zero_mul _))

/-- The divisor is no greater than the coefficient of `y`, when `y` occurs in the equation. -/
theorem natAbs_divisor_le (h : s.AlongLine g a b c) (hb : b ≠ 0) : g.natAbs ≤ b.natAbs :=
  Nat.le_of_dvd (Int.natAbs_pos.mpr hb) (Int.natAbs_dvd_natAbs.mpr ⟨_, h.stepX.symm⟩)

/-- The first coordinate moves when `y` occurs in the equation. -/
theorem stepX_ne_zero (h : s.AlongLine g a b c) (hb : b ≠ 0) : s.stepX ≠ 0 := by
  intro hX
  rw [← h.stepX, hX, Int.mul_zero] at hb
  exact hb rfl

/-- The coefficients that combine `a` and `b` to `g` combine the steps to one. -/
theorem steps_coprime (h : s.AlongLine g a b c) (hg : g ≠ 0) (hr : p * a + q * b = g) :
    q * s.stepX - p * s.stepY = 1 := by
  apply Int.eq_of_mul_eq_mul_left hg
  linear_combination q * h.stepX - p * h.stepY + hr

/-- The way from the start to another solution is parallel to the steps. -/
theorem parallel (h : s.AlongLine g a b c) (hg : g ≠ 0) {x y : Int} (hxy : a * x + b * y = c) :
    s.stepX * (y - s.y₀) = s.stepY * (x - s.x₀) := by
  apply Int.eq_of_mul_eq_mul_left hg
  linear_combination (y - s.y₀) * h.stepX - (x - s.x₀) * h.stepY + hxy - h.start

/-- Every solution has one index, as the steps are coprime. -/
theorem parametrizes (h : s.AlongLine g a b c) (hg : g ≠ 0) (hr : p * a + q * b = g) :
    s.Parametrizes a b c where
  sound i := ⟨_, _, at_int s i, h.sound i⟩
  complete x y hxy := by
    have hone := h.steps_coprime hg hr
    have hline := h.parallel hg hxy
    -- the index is the way to the solution, measured by the combination that makes one of the steps
    refine ⟨q * (x - s.x₀) - p * (y - s.y₀), at_eq_ok_iff.mpr ⟨?_, ?_⟩, ?_⟩
    · linear_combination (x - s.x₀) * hone - p * hline
    · linear_combination (y - s.y₀) * hone - q * hline
    · intro i hi
      obtain ⟨hix, hiy⟩ := at_eq_ok_iff.mp hi
      linear_combination q * hix - p * hiy - i * hone

end AlongLine

end SolutionFamily

namespace Diophantine

open Text (isLong)

variable {a b c : Int}

/-- A shift always has a result, which is zero for a step of zero. -/
theorem shift_int (k step : Int) : shift k step = .ok (k.tdiv step) := by
  unfold shift
  split
  · next h =>
    rw [isZero_int.mp h, Int.tdiv_zero]
    rfl
  · next h => exact quo_int (mt isZero_int.mpr h)

/-- The number of steps that centring moves a solution back by. -/
def stepsBack (x y stepX stepY : Int) : Int :=
  if y.natAbs < x.natAbs then x.tdiv stepX else y.tdiv stepY

/-- Centring moves a solution back by a number of steps. -/
theorem center_int (x y stepX stepY : Int) :
    center x y stepX stepY = .ok ⟨x - stepsBack x y stepX stepY * stepX,
      y - stepsBack x y stepX stepY * stepY, stepX, stepY⟩ := by
  have h : center x y stepX stepY =
      (if lt (y.natAbs : Int) x.natAbs then shift x stepX else shift y stepY) >>=
        moveBack x y stepX stepY := center_eq ..
  have hlt : lt (y.natAbs : Int) x.natAbs = true ↔ y.natAbs < x.natAbs :=
    lt_iff.trans Int.ofNat_lt
  rw [h, shift_int, shift_int, stepsBack]
  simp only [hlt]
  split
  · rfl
  · rfl

/-- With the numbers of an equation as multiples of the divisor all four quotients are exact. -/
theorem solveWith_mul {g : Int} (hg : g ≠ 0) (A B k p q : Int) :
    solveWith (g * A) (g * B) (g * k) ⟨g, p, q⟩ =
      (·, g) <$> center (k * p) (k * q) B (-A) := by
  have hx : quo (g * k * p) g = .ok (k * p) := by rw [Int.mul_assoc, quo_mul_int hg]
  have hy : quo (g * k * q) g = .ok (k * q) := by rw [Int.mul_assoc, quo_mul_int hg]
  have hstep : quo (-(g * A)) g = .ok (-A) := by rw [← Int.mul_neg, quo_mul_int hg]
  have h : solveWith (g * A) (g * B) (g * k) ⟨g, p, q⟩ =
      quo (g * k * p) g >>= fun x ↦ quo (g * k * q) g >>= fun y ↦ quo (g * B) g >>= fun stepX ↦
        quo (-(g * A)) g >>= fun stepY ↦
          center x y stepX stepY >>= fun s ↦ .ok (s, g) := rfl
  rw [h, hx, hy, quo_mul_int hg, hstep]
  simp only [bind, Except.bind, center_int]
  rfl

/-- An equation with a divisor of all three numbers that is combined from the coefficients has a
family of solutions. -/
theorem exists_solveWith {row : Euclid.Row Int} (hr : row.Combines a b) (hg : row.value ≠ 0)
    (ha : row.value ∣ a) (hb : row.value ∣ b) (hc : row.value ∣ c) :
    ∃ s, solveWith a b c row = .ok (s, row.value) ∧ s.AlongLine row.value a b c := by
  obtain ⟨g, p, q⟩ := row
  dsimp only at *
  obtain ⟨A, rfl⟩ := ha
  obtain ⟨B, rfl⟩ := hb
  obtain ⟨k, rfl⟩ := hc
  have hone : p * A + q * B = 1 := by
    apply Int.eq_of_mul_eq_mul_left hg
    have h : p * (g * A) + q * (g * B) = g := hr
    linear_combination h
  rw [solveWith_mul hg, center_int]
  refine ⟨_, rfl, ?_, rfl, Int.mul_neg ..⟩
  dsimp only
  linear_combination g * k * hone

/-- The divisor that the extended algorithm finds divides what the greatest common divisor
divides. -/
theorem dvd_iff_gcd_dvd {g : Int} (hg : g.natAbs = a.gcd b) : g ∣ c ↔ (a.gcd b : Int) ∣ c := by
  rw [← hg, Int.natAbs_dvd]

/-- What becomes of an equation is decided by the divisor that the extended algorithm finds. -/
theorem solve_of_xgcd {row : Euclid.Row Int} (h : Euclid.xgcd a b = .ok row) (c : Int) :
    solve a b c =
      if row.value = 0 then if c = 0 then .error .everyPair else .error (.noPair c)
      else if row.value ∣ c then solveWith a b c row
      else .error (.notMultiple c a b row.value) := by
  rw [solve_eq, h]
  by_cases hz : row.value = 0
  · rw [if_pos hz]
    simp only [bind, Except.bind, isZero_int, hz, if_true]
    rfl
  · rw [if_neg hz]
    simp only [bind, Except.bind, isZero_int, hz, if_false, rem_int hz,
      Int.dvd_iff_tmod_eq_zero]
    rfl

/-- The refusal names the numbers of the equation and their divisor, which is no longer than they
are. -/
theorem mentionsLong_notMultiple {g : Int} (hg : g.natAbs = a.gcd b) (c : Int) :
    (Failure.notMultiple c a b g).mentionsLong = (isLong a || isLong b || isLong c) := by
  have hdivisor (h : isLong g = true) : isLong a = true ∨ isLong b = true := by
    by_cases ha : a = 0
    · rw [ha, Int.gcd_zero_left] at hg
      exact .inr (Text.isLong_of_natAbs_le hg.le h)
    · exact .inl (Text.isLong_of_natAbs_le (hg ▸ Int.gcd_le_natAbs_left b ha) h)
  rw [Bool.eq_iff_iff]
  simp only [Failure.mentionsLong, Failure.integers, List.any_cons, List.any_nil, Bool.or_false,
    Bool.or_eq_true]
  constructor
  · rintro (h | h | h | h)
    · exact .inr h
    · exact .inl (.inl h)
    · exact .inl (.inr h)
    · exact .inl (hdivisor h)
  · rintro ((h | h) | h)
    · exact .inr (.inl h)
    · exact .inr (.inr (.inl h))
    · exact .inl h

/-- There is no solution when the greatest common divisor of the coefficients does not divide the
constant, and the numbers of the equation are named. -/
theorem failsFor_noSolution (hc : ¬(a.gcd b : Int) ∣ c) :
    FailsFor (solve a b c) .noSolution (isLong a || isLong b || isLong c) := by
  obtain ⟨row, hx, -, hg⟩ := Euclid.exists_xgcd a b
  have hdvd := hc
  rw [← dvd_iff_gcd_dvd hg] at hdvd
  rw [solve_of_xgcd hx]
  by_cases hz : row.value = 0
  · have hc : c ≠ 0 := by
      rintro rfl
      exact hc (Int.dvd_zero _)
    rw [if_pos hz, if_neg hc]
    rw [hz, Int.natAbs_zero, eq_comm, Int.gcd_eq_zero_iff] at hg
    obtain ⟨rfl, rfl⟩ := hg
    exact ⟨_, rfl, rfl, by simp [Failure.mentionsLong, Failure.integers]⟩
  · rw [if_neg hz, if_neg hdvd, ← mentionsLong_notMultiple hg c]
    exact failsFor_error rfl

/-- The equation of zeros only is refused, as every pair solves it. -/
theorem solve_zero : solve (0 : Int) 0 0 = .error .everyPair := by
  obtain ⟨row, hx, -, hg⟩ := Euclid.exists_xgcd 0 0
  rw [solve_of_xgcd hx, if_pos (Int.natAbs_eq_zero.mp hg), if_pos rfl]

/-- Any other equation has a family of solutions. -/
theorem exists_solve (h : a ≠ 0 ∨ b ≠ 0) (hc : (a.gcd b : Int) ∣ c) :
    ∃ row s, Euclid.xgcd a b = .ok row ∧ row.Combines a b ∧ row.value.natAbs = a.gcd b ∧
      solve a b c = .ok (s, row.value) ∧ s.AlongLine row.value a b c := by
  obtain ⟨row, hx, hr, hg⟩ := Euclid.exists_xgcd a b
  have hz := Euclid.ne_zero_of_natAbs_eq_gcd h hg
  have ha : row.value ∣ a := (dvd_iff_gcd_dvd hg).mpr (Int.gcd_dvd_left ..)
  have hb : row.value ∣ b := (dvd_iff_gcd_dvd hg).mpr (Int.gcd_dvd_right ..)
  have hc : row.value ∣ c := (dvd_iff_gcd_dvd hg).mpr hc
  obtain ⟨s, hs, hline⟩ := exists_solveWith hr hz ha hb hc
  refine ⟨row, s, hx, hr, hg, ?_, hline⟩
  rw [solve_of_xgcd hx, if_neg hz, if_pos hc, hs]

/-- Only the equation of zeros is refused, and one whose constant the greatest common divisor of the
coefficients does not divide has no solution. That is reported for numbers that are written. -/
theorem reports_iff {kind : FaultKind} :
    Reports (solve a b c) kind ↔
      (kind = .failure .badArgument ∧ a = 0 ∧ b = 0 ∧ c = 0) ∨
      (kind = Category.noSolution.reportKind (isLong a || isLong b || isLong c) ∧
        ¬(a.gcd b : Int) ∣ c) := by
  by_cases hc : (a.gcd b : Int) ∣ c
  · by_cases h : a ≠ 0 ∨ b ≠ 0
    · obtain ⟨row, s, -, -, -, hs, -⟩ := exists_solve h hc
      have hzero : ¬(a = 0 ∧ b = 0 ∧ c = 0) := by omega
      rw [hs]
      exact iff_of_false not_reports_ok (by simp [hc, hzero])
    · obtain ⟨rfl, rfl⟩ : a = 0 ∧ b = 0 := by omega
      obtain rfl := Int.zero_dvd.mp hc
      rw [solve_zero, (failsFor_error (c := .badArgument) rfl).reports_iff]
      simp [Category.reportKind, Failure.mentionsLong, Failure.integers]
  · have hzero : ¬(a = 0 ∧ b = 0 ∧ c = 0) := by
      rintro ⟨-, -, rfl⟩
      exact hc (Int.dvd_zero _)
    rw [(failsFor_noSolution hc).reports_iff]
    simp [hc, hzero]

/-- The equation `a*x + b*y = c` is refused when all its numbers are zero, has no solution when the
greatest common divisor of `a` and `b` does not divide `c`, and is otherwise given a family that has
each of its solutions at one index. That there is no solution is not reported when one of the
numbers is too long to be written. -/
theorem solve_describes_solutions (a b c : Int) :
    (Reports (solve a b c) (.failure .badArgument) ↔ a = 0 ∧ b = 0 ∧ c = 0) ∧
    (Reports (solve a b c) (.failure .noSolution) ↔
      ¬(a.gcd b : Int) ∣ c ∧ ¬(isLong a ∨ isLong b ∨ isLong c)) ∧
    (Reports (solve a b c) .value ↔
      ¬(a.gcd b : Int) ∣ c ∧ (isLong a ∨ isLong b ∨ isLong c)) ∧
    (a ≠ 0 ∨ b ≠ 0 → (a.gcd b : Int) ∣ c →
      ∃ row family, Euclid.xgcd a b = .ok row ∧ solve a b c = .ok (family, row.value) ∧
        row.value * family.stepX = b ∧ row.value * family.stepY = -a ∧
        family.Parametrizes a b c ∧
        ∀ n, ∃ pairs, family.take 0 n = .ok pairs ∧ pairs.length = n ∧
          ∀ i (hi : i < pairs.length), family.at i = .ok pairs[i]) := by
  refine ⟨?_, ?_, ?_, fun h hc ↦ ?_⟩
  · rw [reports_iff, Category.failure_eq_reportKind_iff]
    simp
  · rw [reports_iff, Category.failure_eq_reportKind_iff]
    simp [and_assoc, and_comm]
  · rw [reports_iff, Category.value_eq_reportKind_iff]
    simp [or_assoc, and_comm]
  obtain ⟨row, s, hx, hr, hg, hs, hline⟩ := exists_solve h hc
  have hz := Euclid.ne_zero_of_natAbs_eq_gcd h hg
  refine ⟨row, s, hx, hs, hline.stepX, hline.stepY, hline.parametrizes hz hr, fun n ↦ ?_⟩
  refine ⟨_, SolutionFamily.take_int s 0 n, by simp, fun i hi ↦ ?_⟩
  rw [SolutionFamily.at_int, List.getElem_map, List.getElem_range, Int.zero_add]

/-- The equation `6*x - 4*y = 10` has a solution for every index. -/
theorem solve_six_four_ten :
    ∃ row family, Euclid.xgcd (6 : Int) (-4) = .ok row ∧
      solve (6 : Int) (-4) 10 = .ok (family, row.value) ∧ family.Parametrizes 6 (-4) 10 := by
  obtain ⟨row, family, hx, hs, -, -, h, -⟩ :=
    (solve_describes_solutions 6 (-4) 10).2.2.2 (.inl (by decide)) (by decide)
  exact ⟨row, family, hx, hs, h⟩

/-- The equation with zeros for coefficients and the least integer that is too long to be written
has no solution, and something else is reported. -/
theorem solve_zero_zero_long :
    let k : Int := tenPow Text.digitLimit
    ¬((0 : Int).gcd 0 : Int) ∣ k ∧ Reports (solve 0 0 k) .value ∧
      ¬Reports (solve 0 0 k) (.failure .noSolution) := by
  have hlong := Text.isLong_tenPow
  -- the power itself stays out of the argument
  generalize (tenPow Text.digitLimit : Int) = k at hlong ⊢
  have hk : ¬((0 : Int).gcd 0 : Int) ∣ k := by
    rw [Int.gcd_zero_right, Int.natAbs_zero, Int.natCast_zero, Int.zero_dvd]
    rintro rfl
    cases Text.isLong_zero.symm.trans hlong
  refine ⟨hk, ?_, ?_⟩
  · rw [reports_iff, Category.value_eq_reportKind_iff]
    exact .inr ⟨by simp [hlong], hk⟩
  · rw [reports_iff, Category.failure_eq_reportKind_iff]
    simp [hlong]

end Diophantine

end Aliquot
