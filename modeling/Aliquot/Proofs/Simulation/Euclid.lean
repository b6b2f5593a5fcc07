import Aliquot.Euclid.Extended
import Aliquot.Euclid.Gcd
import Aliquot.Proofs.Simulation.Basic

/-!
# Simulation of the Euclidean algorithms

The extended algorithm, the greatest common divisor and the least common multiple on bounded
integers follow their runs on unbounded integers, step by step.
-/

namespace Aliquot.Euclid

open CheckedInt

variable {α : Type} [CheckedInt α]

/-- The three entries of a row stand for those of a row of integers. -/
structure Row.Reads (row : Row α) (ints : Row Int) : Prop where
  value : Aliquot.Reads row.value ints.value
  coeff₁ : Aliquot.Reads row.coeff₁ ints.coeff₁
  coeff₂ : Aliquot.Reads row.coeff₂ ints.coeff₂

/-- The three rows of a state stand for those of a state of integers. -/
structure State.Reads (s : State α) (t : State Int) : Prop where
  previous : s.previous.Reads t.previous
  current : s.current.Reads t.current
  next : s.next.Reads t.next

/-- Subtracting a multiple of a row follows the subtraction on integers. -/
theorem Row.Reads.subMul {row other : Row α} {q : α} {ints others : Row Int} {k : Int}
    (h : row.Reads ints) (hq : Aliquot.Reads q k) (ho : other.Reads others) :
    Simulates Row.Reads (row.subMul q other) (ints.subMul k others) := by
  apply (hq.mul ho.value).bind
  intro _ _ _ hm
  apply (h.value.sub hm).bind
  intro _ _ _ hv
  apply (hq.mul ho.coeff₁).bind
  intro _ _ _ hm
  apply (h.coeff₁.sub hm).bind
  intro _ _ _ h₁
  apply (hq.mul ho.coeff₂).bind
  intro _ _ _ hm
  apply (h.coeff₂.sub hm).bind
  intro _ _ _ h₂
  exact .value ⟨hv, h₁, h₂⟩

namespace State

variable {s : State α} {t : State Int}

/-- The states before the first step stand for each other. -/
theorem Reads.start {a b : α} {j k : Int} (ha : Aliquot.Reads a j) (hb : Aliquot.Reads b k) :
    (start a b).Reads (start j k) where
  previous := ⟨.zero, .zero, .zero⟩
  current := ⟨ha, .one, .zero⟩
  next := ⟨hb, .zero, .one⟩

/-- Both runs end after the same step. -/
theorem Reads.isFinished_eq (h : s.Reads t) : s.isFinished = t.isFinished :=
  h.next.value.isZero_eq

/-- A step follows the step on integers. -/
theorem Reads.step (h : s.Reads t) : Simulates State.Reads s.step t.step := by
  apply (h.current.value.quo h.next.value).bind
  intro _ _ _ hq
  apply (h.current.subMul hq h.next).bind
  intro _ _ _ hr
  exact .value ⟨h.current, h.next, hr⟩

/-- A run follows the run on integers: by induction on the steps, each of which follows. -/
theorem Reads.run (h : s.Reads t) : Simulates State.Reads s.run t.run := by
  induction s using State.run.induct generalizing t with
  | case1 s hs =>
    rw [run_of_isFinished hs, run_of_isFinished (h.isFinished_eq ▸ hs)]
    exact .value h
  | case2 s hs e he =>
    rw [run_of_not_isFinished hs, run_of_not_isFinished (h.isFinished_eq ▸ hs)]
    apply h.step.bind
    intro u _ hu
    rw [he] at hu
    cases hu
  | case3 s hs u hu ih =>
    rw [run_of_not_isFinished hs, run_of_not_isFinished (h.isFinished_eq ▸ hs)]
    apply h.step.bind
    intro u' _ hu' huv
    rw [hu] at hu'
    cases hu'
    exact ih huv

end State

/-- The extended algorithm follows its run on integers. -/
theorem xgcd_simulates {a b : α} {j k : Int} (ha : Reads a j) (hb : Reads b k) :
    Simulates Row.Reads (xgcd a b) (xgcd j k) := by
  apply (State.Reads.start ha hb).run.bind
  intro _ _ _ h
  exact .value h.current

/-- A row that is found stands for the row that is found for the integers. -/
theorem exists_reads_of_xgcd_eq_ok {a b : α} {row : Row α} (h : xgcd a b = .ok row) :
    ∃ ints, xgcd (toInt a) (toInt b) = .ok ints ∧ row.Reads ints := by
  have hsim : Simulates Row.Reads (xgcd a b) (xgcd (toInt a) (toInt b)) := xgcd_simulates rfl rfl
  rw [h] at hsim
  exact hsim.exists_of_ok

/-- The loop of remainders follows its run on integers. -/
theorem gcdLoop_simulates {a b : α} {j k : Int} (ha : Reads a j) (hb : Reads b k) :
    Simulates Reads (gcdLoop a b) (gcdLoop j k) := by
  induction a, b using gcdLoop.induct generalizing j k with
  | case1 a b h =>
    rw [gcdLoop_of_isZero h, gcdLoop_of_isZero (hb.isZero_eq ▸ h)]
    exact .value ha
  | case2 a b h e he =>
    rw [gcdLoop_of_not_isZero h, gcdLoop_of_not_isZero (hb.isZero_eq ▸ h)]
    apply (ha.rem hb).bind
    intro r _ hr
    rw [he] at hr
    cases hr
  | case3 a b h r hr ih =>
    rw [gcdLoop_of_not_isZero h, gcdLoop_of_not_isZero (hb.isZero_eq ▸ h)]
    apply (ha.rem hb).bind
    intro r' _ hr' hrr
    rw [hr] at hr'
    cases hr'
    exact ih hb hrr

/-- The greatest common divisor follows that of the integers. -/
theorem gcd_simulates {a b : α} {j k : Int} (ha : Reads a j) (hb : Reads b k) :
    Simulates Reads (gcd a b) (gcd j k) := by
  apply ha.abs.bind
  intro _ _ _ ha
  apply hb.abs.bind
  intro _ _ _ hb
  exact gcdLoop_simulates ha hb

/-- The least common multiple follows that of the integers. -/
theorem lcm_simulates {a b : α} {j k : Int} (ha : Reads a j) (hb : Reads b k) :
    Simulates Reads (lcm a b) (lcm j k) := by
  rw [lcm_eq, lcm_eq, ha.isZero_eq, hb.isZero_eq]
  split
  · exact .failure _
  · obtain h | ⟨z, h, hz⟩ := ha.mul? hb
    · rw [h]
      exact .overflow rfl
    · rw [h]
      apply (gcd_simulates ha hb).bind
      intro _ _ _ hg
      exact hz.quo hg

end Aliquot.Euclid
