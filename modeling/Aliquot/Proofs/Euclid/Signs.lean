import Aliquot.Proofs.Euclid.Bezout
import Mathlib.Algebra.Ring.Commute
import Mathlib.Tactic.LinearCombination

/-!
# The law of signs of the extended algorithm

A run makes the same steps as the run on the absolute values of the two numbers, up to signs that
follow from the count of the steps. Every quotient has the product of the two signs, so the values
take turns in sign, and each column of coefficients has one more sign of its own.
-/

namespace Aliquot.Euclid

open CheckedInt

/-- The sign of an integer, that of zero being positive. -/
def signOf (k : Int) : Int := if k < 0 then -1 else 1

/-- A sign is its own inverse. -/
theorem signOf_mul_self (k : Int) : signOf k * signOf k = 1 := by
  unfold signOf
  split <;> rfl

/-- An integer is its absolute value with its sign. -/
theorem signOf_mul_natAbs (k : Int) : signOf k * k.natAbs = k := by
  unfold signOf
  split <;> omega

/-- An absolute value is the integer with its sign. -/
theorem natAbs_eq_signOf_mul (k : Int) : (k.natAbs : Int) = signOf k * k := by
  unfold signOf
  split <;> omega

/-- The sign of the current value after `n` steps from `a` and `b`. Remainders have the sign of the
dividend, so the signs of the two numbers take turns. -/
def signAt (a b : Int) (n : Nat) : Int := if n % 2 = 0 then signOf a else signOf b

/-- The signs come back after two steps. -/
theorem signAt_add_two (a b : Int) (n : Nat) : signAt a b (n + 2) = signAt a b n := by
  rw [signAt, signAt, Nat.add_mod_right]

/-- Each of these signs is its own inverse. -/
theorem signAt_mul_self (a b : Int) (n : Nat) : signAt a b n * signAt a b n = 1 := by
  unfold signAt
  split
  · exact signOf_mul_self a
  · exact signOf_mul_self b

section Signs

variable {p q : Int}

/-- A sign has the absolute value one. -/
theorem natAbs_sign (hp : p * p = 1) : p.natAbs = 1 := by
  rcases mul_self_eq_one_iff.mp hp with rfl | rfl <;> rfl

/-- The sign of a quotient is the product of the signs. -/
theorem tdiv_sign_mul (hp : p * p = 1) (hq : q * q = 1) (j k : Int) :
    (p * j).tdiv (q * k) = p * q * j.tdiv k := by
  rcases mul_self_eq_one_iff.mp hp with rfl | rfl <;>
    rcases mul_self_eq_one_iff.mp hq with rfl | rfl <;>
      simp [Int.neg_tdiv, Int.tdiv_neg]

end Signs

/-- A row with the sign `p` on its value, where the numbers that it combines have the signs `σ`
and `τ`. -/
def Row.withSigns (row : Row Int) (p σ τ : Int) : Row Int :=
  ⟨p * row.value, p * σ * row.coeff₁, p * τ * row.coeff₂⟩

namespace State

/-- A state with the signs `p` and `q` on the values of its live rows. -/
def withSigns (s : State Int) (p q σ τ : Int) : State Int :=
  ⟨s.previous.withSigns q σ τ, s.current.withSigns p σ τ, s.next.withSigns q σ τ⟩

/-- The quotient of a step. -/
def quotient (s : State Int) : Int := s.current.value.tdiv s.next.value

variable {a b p q σ τ : Int} {s t : State Int} {n : Nat}

/-- The quotient has the product of the signs. -/
theorem quotient_withSigns (hp : p * p = 1) (hq : q * q = 1) (s : State Int) (σ τ : Int) :
    (s.withSigns p q σ τ).quotient = p * q * s.quotient :=
  tdiv_sign_mul hp hq ..

/-- The row that a step makes has the sign of the row that it divides. -/
theorem difference_withSigns (hp : p * p = 1) (hq : q * q = 1) (s : State Int) (σ τ : Int) :
    (s.withSigns p q σ τ).difference = s.difference.withSigns p σ τ := by
  have h : (s.withSigns p q σ τ).current.value.tdiv (s.withSigns p q σ τ).next.value =
      p * q * s.quotient := quotient_withSigns hp hq s σ τ
  rw [difference, h]
  simp only [withSigns, Row.withSigns, difference, Row.mk.injEq]
  change _ = p * (_ - s.quotient * _) ∧ _ = p * σ * (_ - s.quotient * _) ∧
    _ = p * τ * (_ - s.quotient * _)
  refine ⟨?_, ?_, ?_⟩
  · linear_combination (-p * s.quotient * s.next.value) * hq
  · linear_combination (-p * σ * s.quotient * s.next.coeff₁) * hq
  · linear_combination (-p * τ * s.quotient * s.next.coeff₂) * hq

/-- Signs do not decide whether a run is over. -/
theorem isFinished_withSigns (hq : q * q = 1) (s : State Int) (p σ τ : Int) :
    (s.withSigns p q σ τ).isFinished = s.isFinished := by
  have hz : q ≠ 0 := left_ne_zero_of_mul (hq ▸ one_ne_zero)
  rw [Bool.eq_iff_iff, isFinished_iff, isFinished_iff]
  exact mul_eq_zero_iff_left hz

/-- The first state is that of the absolute values with the signs of the numbers. -/
theorem start_eq_withSigns (a b : Int) :
    start a b = (start (a.natAbs : Int) (b.natAbs : Int)).withSigns (signOf a) (signOf b)
      (signOf a) (signOf b) := by
  simp only [start, withSigns, Row.withSigns, zero, one, signOf_mul_natAbs, signOf_mul_self,
    mul_one, mul_zero]

/-- A run goes through the states of the run on the absolute values, with signs that take turns. -/
theorem Reaches.exists_withSigns (h : Reaches (start a b) n t) :
    ∃ u, Reaches (start (a.natAbs : Int) (b.natAbs : Int)) n u ∧
      t = u.withSigns (signAt a b n) (signAt a b (n + 1)) (signOf a) (signOf b) := by
  induction h with
  | refl => exact ⟨_, .refl, start_eq_withSigns a b⟩
  | @step n t h hz ih =>
    obtain ⟨u, hu, rfl⟩ := ih
    refine ⟨u.advance, hu.step ?_, ?_⟩
    · exact right_ne_zero_of_mul hz
    · rw [advance, difference_withSigns (signAt_mul_self ..) (signAt_mul_self ..),
        signAt_add_two]
      rfl

end State

/-- The extended algorithm makes as many steps as on the absolute values of the two numbers. What it
finds differs from what it finds there by the sign whose turn it is at the end, and each coefficient
also by the sign of its number. -/
theorem xgcd_follows_signs (a b : Int) :
    ∃ k g p q, (State.start a b).stepCount = k ∧
      (State.start (a.natAbs : Int) b.natAbs).stepCount = k ∧
      xgcd (a.natAbs : Int) b.natAbs = .ok ⟨g, p, q⟩ ∧
      xgcd a b =
        .ok ⟨signAt a b k * g, signAt a b k * signOf a * p, signAt a b k * signOf b * q⟩ := by
  obtain ⟨t, ht, hend, hrun⟩ := State.exists_reaches_stepCount (.start a b)
  obtain ⟨u, hu, rfl⟩ := ht.exists_withSigns
  rw [State.isFinished_withSigns (signAt_mul_self ..)] at hend
  refine ⟨_, u.current.value, u.current.coeff₁, u.current.coeff₂, rfl, ?_, ?_, ?_⟩
  · rw [hu.stepCount_eq, State.stepCount_of_isFinished hend, Nat.zero_add]
  · rw [xgcd, hu.run_eq, State.run_of_isFinished hend]
    rfl
  · rw [xgcd, hrun]
    rfl

/-- Two steps leave the sign of the first number. -/
example : xgcd (-6 : Int) (-4) = .ok ⟨-2, 1, -1⟩ := by decide +kernel

end Aliquot.Euclid
