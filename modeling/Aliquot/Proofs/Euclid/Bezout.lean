import Aliquot.Euclid.Extended
import Aliquot.Euclid.Gcd
import Aliquot.Proofs.Unbounded
import Mathlib.Tactic.Ring

/-!
# Greatest common divisors of unbounded integers

On unbounded integers no step fails. Both algorithms end with a number that has the greatest common
divisor as its absolute value, and the coefficients of the extended one combine the given numbers to
it.
-/

namespace Aliquot.Euclid

open CheckedInt

/-- The row combines `a` and `b` to its value. -/
def Row.Combines (row : Row Int) (a b : Int) : Prop :=
  row.coeff₁ * a + row.coeff₂ * b = row.value

/-- A difference of rows combines what the rows combine. -/
theorem Row.Combines.sub_mul {row other : Row Int} {a b : Int} (h : row.Combines a b)
    (ho : other.Combines a b) (q : Int) :
    Row.Combines ⟨row.value - q * other.value, row.coeff₁ - q * other.coeff₁,
      row.coeff₂ - q * other.coeff₂⟩ a b := by
  unfold Combines at *
  dsimp only
  rw [← h, ← ho]
  ring

namespace State

/-- The row that a step makes. -/
def difference (s : State Int) : Row Int :=
  let q := s.current.value.tdiv s.next.value
  ⟨s.current.value - q * s.next.value, s.current.coeff₁ - q * s.next.coeff₁,
    s.current.coeff₂ - q * s.next.coeff₂⟩

/-- A run is over when the next value is zero. -/
theorem isFinished_iff {s : State Int} : s.isFinished = true ↔ s.next.value = 0 := isZero_int

/-- A step takes place whenever the next value is not zero. -/
theorem step_int {s : State Int} (h : s.next.value ≠ 0) :
    s.step = .ok ⟨s.current, s.next, s.difference⟩ := by
  rw [step, quo_int h]
  rfl

/-- The state after a step. -/
def advance (s : State Int) : State Int := ⟨s.current, s.next, s.difference⟩

/-- The state `t` comes `n` steps after `s`, none of them a division by zero. -/
inductive Reaches (s : State Int) : Nat → State Int → Prop where
  /-- No step has been made. -/
  | refl : Reaches s 0 s
  /-- One more step is made. -/
  | step {n : Nat} {t : State Int} (h : Reaches s n t) (hz : t.next.value ≠ 0) :
    Reaches s (n + 1) t.advance

/-- Steps can be counted from the first one, too. -/
theorem Reaches.head {s t : State Int} {n : Nat} (hz : s.next.value ≠ 0)
    (h : Reaches s.advance n t) : Reaches s (n + 1) t := by
  induction h with
  | refl => exact .step .refl hz
  | step _ hz ih => exact .step ih hz

/-- A run makes some number of steps and ends with a next value of zero. -/
theorem exists_reaches (s : State Int) :
    ∃ n t, Reaches s n t ∧ t.next.value = 0 ∧ s.run = .ok t := by
  induction s using State.run.induct with
  | case1 s hs => exact ⟨0, s, .refl, isFinished_iff.mp hs, run_of_isFinished hs⟩
  | case2 s hs e he =>
    rw [step_int (mt isFinished_iff.mpr hs)] at he
    cases he
  | case3 s hs t ht ih =>
    have hz : s.next.value ≠ 0 := mt isFinished_iff.mpr hs
    rw [run_of_not_isFinished hs, ht]
    rw [step_int hz] at ht
    cases ht
    obtain ⟨n, t, h, hend, hrun⟩ := ih
    exact ⟨n + 1, t, h.head hz, hend, hrun⟩

/-- The number of steps that the run from `s` makes. -/
def stepCount (s : State Int) : Nat :=
  if _hs : s.isFinished then 0 else s.advance.stepCount + 1
termination_by s.next.value.natAbs
decreasing_by exact natAbs_next_lt_of_step_eq_ok _hs (step_int (mt isFinished_iff.mpr _hs))

/-- A finished state has no step left. -/
theorem stepCount_of_isFinished {s : State Int} (h : s.isFinished = true) : s.stepCount = 0 := by
  rw [stepCount, dif_pos h]

/-- Any other state has one more step left than the next one. -/
theorem stepCount_of_ne_zero {s : State Int} (h : s.next.value ≠ 0) :
    s.stepCount = s.advance.stepCount + 1 := by
  rw [stepCount, dif_neg (mt isFinished_iff.mp h)]

/-- The steps that lead to a state come on top of those that are left. -/
theorem Reaches.stepCount_eq {s t : State Int} {n : Nat} (h : Reaches s n t) :
    s.stepCount = t.stepCount + n := by
  induction h with
  | refl => rfl
  | step _ hz ih =>
    rw [ih, stepCount_of_ne_zero hz]
    omega

/-- A run ends as the run from each state that it goes through. -/
theorem Reaches.run_eq {s t : State Int} {n : Nat} (h : Reaches s n t) : s.run = t.run := by
  induction h with
  | refl => rfl
  | step _ hz ih =>
    rw [ih, run_of_not_isFinished (mt isFinished_iff.mp hz), step_int hz]
    rfl

/-- The steps of a run are as many as are counted. -/
theorem exists_reaches_stepCount (s : State Int) :
    ∃ t, Reaches s s.stepCount t ∧ t.isFinished = true ∧ s.run = .ok t := by
  obtain ⟨n, t, h, hz, hrun⟩ := exists_reaches s
  have hend : t.isFinished = true := isFinished_iff.mpr hz
  have hn : s.stepCount = n := by rw [h.stepCount_eq, stepCount_of_isFinished hend, Nat.zero_add]
  exact ⟨t, hn.symm ▸ h, hend, hrun⟩

/-- Both live rows combine `a` and `b`, and their values have the common divisors of `a` and `b`. -/
structure Invariant (a b : Int) (s : State Int) : Prop where
  current : s.current.Combines a b
  next : s.next.Combines a b
  gcd_eq : s.current.value.gcd s.next.value = a.gcd b

/-- The invariant holds before the first step. -/
theorem invariant_start (a b : Int) : Invariant a b (start a b) where
  current := by simp [Row.Combines, start, zero, one]
  next := by simp [Row.Combines, start, zero, one]
  gcd_eq := rfl

/-- A step keeps the invariant. -/
theorem Invariant.step {a b : Int} {s : State Int} (h : Invariant a b s) :
    Invariant a b s.advance where
  current := h.next
  next := h.current.sub_mul h.next _
  gcd_eq := by
    rw [← h.gcd_eq, Int.gcd_comm s.current.value]
    exact Int.gcd_sub_mul_right_right ..

/-- Any number of steps keeps the invariant. -/
theorem Reaches.invariant {a b : Int} {t : State Int} {n : Nat} (h : Reaches (start a b) n t) :
    Invariant a b t := by
  induction h with
  | refl => exact invariant_start a b
  | step _ _ ih => exact ih.step

end State

/-- The extended algorithm yields coefficients for a number whose absolute value is the greatest
common divisor. -/
theorem exists_xgcd (a b : Int) :
    ∃ row, xgcd a b = .ok row ∧ row.Combines a b ∧ row.value.natAbs = a.gcd b := by
  obtain ⟨n, t, h, hz, ht⟩ := State.exists_reaches (.start a b)
  refine ⟨t.current, ?_, h.invariant.current, ?_⟩
  · rw [xgcd, ht]
    rfl
  · rw [← h.invariant.gcd_eq, hz, Int.gcd_zero_right]

/-- The divisor of a row that is found is the greatest one, up to its sign. -/
theorem natAbs_value_of_xgcd {a b : Int} {row : Row Int} (h : xgcd a b = .ok row) :
    row.value.natAbs = a.gcd b := by
  obtain ⟨_, hrow, -, hg⟩ := exists_xgcd a b
  rw [h] at hrow
  cases hrow
  exact hg

/-- With zero as the second number no step is made. -/
theorem xgcd_zero_right (a : Int) : xgcd a 0 = .ok ⟨a, 1, 0⟩ := by
  rw [xgcd, State.run_of_isFinished rfl]
  rfl

/-- A second number that divides the first one is the divisor, after one step. -/
theorem xgcd_of_dvd {a b : Int} (hb : b ≠ 0) (h : b ∣ a) : xgcd a b = .ok ⟨b, 0, 1⟩ := by
  have hz : ¬(State.start a b).isFinished = true := mt State.isFinished_iff.mp hb
  have hend : (State.start a b).advance.isFinished = true := by
    rw [State.isFinished_iff]
    change a - a.tdiv b * b = 0
    rw [Int.tdiv_mul_cancel h, Int.sub_self]
  rw [xgcd, State.run_of_not_isFinished hz, State.step_int hb]
  exact congrArg (· >>= _) (State.run_of_isFinished hend)

/-- A remainder has the divisors that the dividend has in common with the divisor. -/
theorem gcd_tmod (a b : Int) : b.gcd (a.tmod b) = a.gcd b := by
  rw [Int.tmod_def, Int.gcd_comm a b, mul_comm]
  exact Int.gcd_sub_mul_right_right ..

/-- The loop of remainders finds the greatest common divisor of numbers that are not negative. -/
theorem gcdLoop_int {a b : Int} (ha : 0 ≤ a) (hb : 0 ≤ b) : gcdLoop a b = .ok (a.gcd b : Int) := by
  induction a, b using gcdLoop.induct with
  | case1 a b h =>
    have hz : b = 0 := isZero_int.mp h
    rw [gcdLoop_of_isZero h, hz, Int.gcd_zero_right, Int.natAbs_of_nonneg ha]
  | case2 a b h e he =>
    have hz : b ≠ 0 := mt isZero_int.mpr h
    rw [rem_int hz] at he
    cases he
  | case3 a b h r hr ih =>
    have hz : b ≠ 0 := mt isZero_int.mpr h
    rw [gcdLoop_of_not_isZero h, hr]
    rw [rem_int hz] at hr
    cases hr
    rw [← gcd_tmod]
    exact ih hb (Int.tmod_nonneg b ha)

/-- The remainders of the absolute values find the greatest common divisor. -/
theorem gcd_int (a b : Int) : gcd a b = .ok (a.gcd b : Int) := by
  have h : gcd a b = gcdLoop (a.natAbs : Int) (b.natAbs : Int) := rfl
  rw [h, gcdLoop_int (Int.natCast_nonneg _) (Int.natCast_nonneg _)]
  rfl

/-- Numbers that are not both zero have a greatest common divisor that is not zero. -/
theorem gcd_ne_zero {a b : Int} (h : a ≠ 0 ∨ b ≠ 0) : a.gcd b ≠ 0 := by
  rw [Ne, Int.gcd_eq_zero_iff]
  omega

/-- A number with such a divisor as its absolute value is not zero. -/
theorem ne_zero_of_natAbs_eq_gcd {a b g : Int} (h : a ≠ 0 ∨ b ≠ 0) (hg : g.natAbs = a.gcd b) :
    g ≠ 0 := by
  rw [← Int.natAbs_ne_zero, hg]
  exact gcd_ne_zero h

/-- The product divided by the greatest common divisor is the least common multiple, up to its
sign. -/
theorem natAbs_mul_tdiv_gcd (a b : Int) : ((a * b).tdiv (a.gcd b)).natAbs = a.lcm b := by
  rw [Int.natAbs_tdiv, Int.natAbs_mul, Int.natAbs_natCast, Int.lcm_eq_mul_div]
  rfl

/-- Two zeros have no least common multiple. -/
theorem lcm_zero_zero : lcm (0 : Int) 0 = .error .lcmOfZeros := by
  rw [lcm_eq]
  rfl

/-- Two numbers that are not both zero have a least common multiple, up to its sign. -/
theorem exists_lcm {a b : Int} (h : a ≠ 0 ∨ b ≠ 0) :
    ∃ l, lcm a b = .ok l ∧ l.natAbs = a.lcm b := by
  have hg : (a.gcd b : Int) ≠ 0 := Int.natCast_ne_zero.mpr (gcd_ne_zero h)
  have hzeros : ¬(isZero a && isZero b) = true := by
    rw [Bool.and_eq_true]
    intro hab
    exact h.elim (· (isZero_int.mp hab.1)) (· (isZero_int.mp hab.2))
  refine ⟨(a * b).tdiv (a.gcd b), ?_, natAbs_mul_tdiv_gcd a b⟩
  rw [lcm_eq, if_neg hzeros, gcd_int]
  exact quo_int hg

end Aliquot.Euclid
