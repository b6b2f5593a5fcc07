import Aliquot.Congruence
import Aliquot.Euclid.Gcd
import Aliquot.Power
import Aliquot.Proofs.Report.Bounded

/-!
# Algorithms whose failures can be written

The algorithms on a type of short integers fail in one of its operations or refuse their operands,
which are short themselves. Their failures are therefore reported under their own classes.
-/

namespace Aliquot

open CheckedInt

variable {α : Type} [CheckedInt α] (hα : HasShortIntegers α)
include hα

namespace Euclid

/-- A row less a multiple of another one. -/
theorem Row.subMul_writesFailures (row : Row α) (q : α) (other : Row α) :
    WritesFailures (row.subMul q other) := by
  apply (hα.mul ..).bind
  intro _ _
  apply (hα.sub ..).bind
  intro _ _
  apply (hα.mul ..).bind
  intro _ _
  apply (hα.sub ..).bind
  intro _ _
  apply (hα.mul ..).bind
  intro _ _
  apply (hα.sub ..).bind
  intro _ _
  exact writesFailures_ok _

/-- A step of the extended algorithm. -/
theorem State.step_writesFailures (s : State α) : WritesFailures s.step := by
  apply (hα.quo ..).bind
  intro _ _
  apply (Row.subMul_writesFailures hα ..).bind
  intro _ _
  exact writesFailures_ok _

/-- All steps of it: by induction on the steps. -/
theorem State.run_writesFailures (s : State α) : WritesFailures s.run := by
  induction s using State.run.induct with
  | case1 s hs =>
    rw [run_of_isFinished hs]
    exact writesFailures_ok s
  | case2 s hs e he =>
    rw [run_of_not_isFinished hs, he]
    exact writesFailures_error ((step_writesFailures hα s).mentionsLong he)
  | case3 s hs t ht ih =>
    rw [run_of_not_isFinished hs, ht]
    exact ih

/-- The extended algorithm. -/
theorem xgcd_writesFailures (a b : α) : WritesFailures (xgcd a b) :=
  (State.run_writesFailures hα _).bind fun _ _ ↦ writesFailures_ok _

/-- The loop of remainders: by induction on the remainders. -/
theorem gcdLoop_writesFailures (a b : α) : WritesFailures (gcdLoop a b) := by
  induction a, b using gcdLoop.induct with
  | case1 a b h =>
    rw [gcdLoop_of_isZero h]
    exact writesFailures_ok a
  | case2 a b h e he =>
    rw [gcdLoop_of_not_isZero h, he]
    exact writesFailures_error ((hα.rem a b).mentionsLong he)
  | case3 a b h r hr ih =>
    rw [gcdLoop_of_not_isZero h, hr]
    exact ih

/-- The greatest common divisor. -/
theorem gcd_writesFailures (a b : α) : WritesFailures (gcd a b) := by
  apply (hα.abs a).bind
  intro _ _
  apply (hα.abs b).bind
  intro _ _
  exact gcdLoop_writesFailures hα _ _

/-- The least common multiple. -/
theorem lcm_writesFailures (a b : α) : WritesFailures (lcm a b) := by
  rw [lcm_eq]
  split
  · exact writesFailures_error rfl
  · split
    · exact writesFailures_error (hα.productOutOfRange ..)
    · exact (gcd_writesFailures hα a b).bind fun _ _ ↦ hα.quo ..

end Euclid

namespace SolutionFamily

/-- A pair of a family, with an index that is not too long. -/
theorem at_writesFailures (s : SolutionFamily α) {i : Int} (hi : i.natAbs ≤ twoPow 256) :
    WritesFailures (s.at i) := by
  apply (hα.ofInt hi).bind
  intro _ _
  apply (hα.mul ..).bind
  intro _ _
  apply (hα.add ..).bind
  intro _ _
  apply (hα.mul ..).bind
  intro _ _
  apply (hα.add ..).bind
  intro _ _
  exact writesFailures_ok _

/-- Pairs of a family, with indices that are not too long. -/
theorem take_writesFailures (s : SolutionFamily α) {start : Int} {n : Nat}
    (h : ∀ i < n, (start + i).natAbs ≤ twoPow 256) : WritesFailures (s.take start n) := by
  apply WritesFailures.mapM
  intro i hi
  exact at_writesFailures hα s (h i (List.mem_range.mp hi))

end SolutionFamily

namespace Diophantine

/-- The quotient of a coordinate by its step. -/
theorem shift_writesFailures (coordinate step : α) : WritesFailures (shift coordinate step) := by
  unfold shift
  split
  · exact writesFailures_ok zero
  · exact hα.quo ..

/-- A solution moved back. -/
theorem moveBack_writesFailures (x y stepX stepY q : α) :
    WritesFailures (moveBack x y stepX stepY q) := by
  apply (hα.mul ..).bind
  intro _ _
  apply (hα.sub ..).bind
  intro _ _
  apply (hα.mul ..).bind
  intro _ _
  apply (hα.sub ..).bind
  intro _ _
  exact writesFailures_ok _

/-- Centring. -/
theorem center_writesFailures (x y stepX stepY : α) :
    WritesFailures (center x y stepX stepY) := by
  rw [center_eq]
  apply (hα.abs x).bind
  intro absX _
  apply (hα.abs y).bind
  intro absY _
  apply WritesFailures.bind
  · split
    · exact shift_writesFailures hα x stepX
    · exact shift_writesFailures hα y stepY
  · intro q _
    exact moveBack_writesFailures hα ..

/-- The solutions made from a row. -/
theorem solveWith_writesFailures (a b c : α) (row : Euclid.Row α) :
    WritesFailures (solveWith a b c row) := by
  apply (hα.mul ..).bind
  intro _ _
  apply (hα.quo ..).bind
  intro _ _
  apply (hα.mul ..).bind
  intro _ _
  apply (hα.quo ..).bind
  intro _ _
  apply (hα.quo ..).bind
  intro _ _
  apply (hα.neg ..).bind
  intro _ _
  apply (hα.quo ..).bind
  intro _ _
  apply (center_writesFailures hα ..).bind
  intro _ _
  exact writesFailures_ok _

/-- The solutions of an equation. -/
theorem solve_writesFailures (a b c : α) : WritesFailures (solve a b c) := by
  have hshort := hα.isLong_eq_false
  rw [solve_eq]
  apply (Euclid.xgcd_writesFailures hα a b).bind
  intro row _
  split
  · split
    · exact writesFailures_error rfl
    · exact writesFailures_error (by simp [Failure.mentionsLong, Failure.integers, hshort])
  · apply (hα.rem ..).bind
    intro _ _
    split
    · exact solveWith_writesFailures hα ..
    · exact writesFailures_error (by simp [Failure.mentionsLong, Failure.integers, hshort])

end Diophantine

namespace Congruence

/-- The residue of a value. -/
theorem residue_writesFailures (x m : α) : WritesFailures (residue x m) := by
  apply (hα.rem x m).bind
  intro r _
  split
  · exact hα.add r m
  · exact writesFailures_ok r

/-- The residue of a first coordinate, with an index that is not too long. -/
theorem residueAt_writesFailures (s : SolutionFamily α) (m : α) {i : Int}
    (hi : i.natAbs ≤ twoPow 256) : WritesFailures (residueAt s m i) :=
  (s.at_writesFailures hα hi).bind fun _ _ ↦ residue_writesFailures hα ..

/-- The residues of a congruence. -/
theorem solve_writesFailures (a b m : α) : WritesFailures (solve a b m) := by
  have hshort := hα.isLong_eq_false
  rw [solve_eq]
  split
  · exact writesFailures_error (by simp [Failure.mentionsLong, Failure.integers, hshort])
  · apply (Diophantine.solve_writesFailures hα a m b).bind
    intro s _
    apply (hα.abs s.2).bind
    intro g _
    apply WritesFailures.bind
    · unfold toCount
      split
      · exact writesFailures_ok _
      · exact writesFailures_error (by simp [Failure.mentionsLong, Failure.integers, hshort])
    · intro count hcount
      -- what is counted is the integer of a value, so the indices below it are short
      have hle : count.natAbs ≤ twoPow 128 := by
        unfold toCount at hcount
        split at hcount
        · cases hcount
          exact hα.natAbs_le g
        · cases hcount
      apply WritesFailures.mapM
      intro i hi
      rw [List.mem_range] at hi
      have := twoPow_le_twoPow (by decide : 128 ≤ 256)
      exact residueAt_writesFailures hα s.1 m (by omega)

/-- The inverse. -/
theorem inverse_writesFailures (n m : α) : WritesFailures (inverse n m) := by
  have hshort := hα.isLong_eq_false
  rw [inverse_eq]
  split
  · exact writesFailures_error (by simp [Failure.mentionsLong, Failure.integers, hshort])
  · apply (Diophantine.solve_writesFailures hα n m one).bind
    intro s _
    exact residueAt_writesFailures hα s.1 m (Nat.zero_le _)

end Congruence

/-- A reduced product. -/
theorem mulMod_writesFailures (a b m : α) : WritesFailures (mulMod a b m) := by
  unfold mulMod
  split
  · exact writesFailures_error (hα.productOutOfRange ..)
  · exact hα.rem ..

/-- The loop through the digits of an exponent: by induction on the digits left. -/
theorem powMod.loop_writesFailures (x n m mask result : α) :
    WritesFailures (loop x n m mask result) := by
  induction mask, result using loop.induct with
  | case1 mask result h =>
    rw [loop_of_le h]
    exact writesFailures_ok result
  | case2 mask result h ih =>
    rw [loop_of_not_le h]
    apply (mulMod_writesFailures hα ..).bind
    intro square _
    apply WritesFailures.bind
    · split
      · exact writesFailures_ok square
      · exact mulMod_writesFailures hα ..
    · intro r _
      exact ih r

/-- A power. -/
theorem powMod_writesFailures (x n m : α) : WritesFailures (powMod x n m) := by
  unfold powMod
  split
  · exact writesFailures_error (by
      simp [Failure.mentionsLong, Failure.integers, hα.isLong_eq_false])
  · split
    · exact writesFailures_ok one
    · exact powMod.loop_writesFailures hα ..

end Aliquot
