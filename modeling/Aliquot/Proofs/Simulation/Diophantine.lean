import Aliquot.Congruence
import Aliquot.Proofs.Simulation.Euclid

/-!
# Simulation of equations and congruences

The family of solutions, its pairs and the residues made from them follow their runs on unbounded
integers, the choice of the coordinate that is centred included.
-/

namespace Aliquot

open CheckedInt

variable {α : Type} [CheckedInt α]

/-- Both coordinates of a pair stand for integers. -/
def PairReads (p : α × α) (q : Int × Int) : Prop := Reads p.1 q.1 ∧ Reads p.2 q.2

namespace SolutionFamily

/-- The four numbers of a family stand for those of a family of integers. -/
structure Reads (s : SolutionFamily α) (t : SolutionFamily Int) : Prop where
  x₀ : Aliquot.Reads s.x₀ t.x₀
  y₀ : Aliquot.Reads s.y₀ t.y₀
  stepX : Aliquot.Reads s.stepX t.stepX
  stepY : Aliquot.Reads s.stepY t.stepY

/-- The pair with an index follows the pair of integers with that index. -/
theorem Reads.at {s : SolutionFamily α} {t : SolutionFamily Int} (h : s.Reads t) (i : Int) :
    Simulates PairReads (s.at i) (t.at i) := by
  apply (Aliquot.Reads.ofInt i).bind
  intro _ _ _ hi
  apply (h.stepX.mul hi).bind
  intro _ _ _ hm
  apply (h.x₀.add hm).bind
  intro _ _ _ hx
  apply (h.stepY.mul hi).bind
  intro _ _ _ hm
  apply (h.y₀.add hm).bind
  intro _ _ _ hy
  exact .value ⟨hx, hy⟩

/-- The first pairs follow those of integers. -/
theorem Reads.take {s : SolutionFamily α} {t : SolutionFamily Int} (h : s.Reads t) (start : Int)
    (n : Nat) : Simulates (List.Forall₂ PairReads) (s.take start n) (t.take start n) :=
  .mapM (List.range n) fun i _ ↦ h.at (start + i)

end SolutionFamily

namespace Diophantine

/-- The quotient by a step follows that of the integers. -/
theorem shift_simulates {x step : α} {j k : Int} (hx : Reads x j) (hs : Reads step k) :
    Simulates Reads (shift x step) (shift j k) := by
  unfold shift
  rw [hs.isZero_eq]
  split
  · exact .value .zero
  · exact hx.quo hs

/-- Moving back follows the move on integers. -/
theorem moveBack_simulates {x y stepX stepY q : α} {i j k l p : Int} (hx : Reads x i)
    (hy : Reads y j) (hsx : Reads stepX k) (hsy : Reads stepY l) (hq : Reads q p) :
    Simulates SolutionFamily.Reads (moveBack x y stepX stepY q) (moveBack i j k l p) := by
  apply (hq.mul hsx).bind
  intro _ _ _ hm
  apply (hx.sub hm).bind
  intro _ _ _ hx₀
  apply (hq.mul hsy).bind
  intro _ _ _ hm
  apply (hy.sub hm).bind
  intro _ _ _ hy₀
  exact .value ⟨hx₀, hy₀, hsx, hsy⟩

/-- Centring follows that of the integers and chooses the same coordinate. -/
theorem center_simulates {x y stepX stepY : α} {i j k l : Int} (hx : Reads x i) (hy : Reads y j)
    (hsx : Reads stepX k) (hsy : Reads stepY l) :
    Simulates SolutionFamily.Reads (center x y stepX stepY) (center i j k l) := by
  rw [center_eq, center_eq]
  apply hx.abs.bind
  intro _ _ _ hax
  apply hy.abs.bind
  intro _ _ _ hay
  rw [hay.lt_eq hax]
  apply Follows.bind (R := Reads)
  · split
    · exact shift_simulates hx hsx
    · exact shift_simulates hy hsy
  · intro _ _ _ hq
    exact moveBack_simulates hx hy hsx hsy hq

/-- A family and its divisor stand for a family and divisor of integers. -/
def SolutionReads (s : SolutionFamily α × α) (t : SolutionFamily Int × Int) : Prop :=
  s.1.Reads t.1 ∧ Reads s.2 t.2

/-- The family of an equation follows that of the integers. -/
theorem solve_simulates {a b c : α} {i j k : Int} (ha : Reads a i) (hb : Reads b j)
    (hc : Reads c k) : Simulates SolutionReads (solve a b c) (solve i j k) := by
  rw [solve_eq, solve_eq]
  apply (Euclid.xgcd_simulates ha hb).bind
  intro row ints _ h
  rw [h.value.isZero_eq, hc.isZero_eq, ha, hb, hc, h.value]
  split
  · split
    · exact .failure _
    · exact .failure _
  · apply (hc.rem h.value).bind
    intro _ _ _ hr
    rw [hr.isZero_eq]
    split
    · apply (hc.mul h.coeff₁).bind
      intro _ _ _ hm
      apply (hm.quo h.value).bind
      intro _ _ _ hx
      apply (hc.mul h.coeff₂).bind
      intro _ _ _ hm
      apply (hm.quo h.value).bind
      intro _ _ _ hy
      apply (hb.quo h.value).bind
      intro _ _ _ hsx
      apply ha.neg.bind
      intro _ _ _ hn
      apply (hn.quo h.value).bind
      intro _ _ _ hsy
      apply (center_simulates hx hy hsx hsy).bind
      intro _ _ _ hf
      exact .value ⟨hf, h.value⟩
    · exact .failure _

end Diophantine

namespace Congruence

/-- The residue of a value follows that of the integer. -/
theorem residue_simulates {x m : α} {j k : Int} (hx : Reads x j) (hm : Reads m k) :
    Simulates Reads (residue x m) (residue j k) := by
  apply (hx.rem hm).bind
  intro _ _ _ hr
  rw [hr.isNeg_eq]
  split
  · exact hr.add hm
  · exact .value hr

/-- The residue with an index follows that of the integers. -/
theorem residueAt_simulates {s : SolutionFamily α} {t : SolutionFamily Int} {m : α} {k : Int}
    (hs : s.Reads t) (hm : Reads m k) (i : Int) :
    Simulates Reads (residueAt s m i) (residueAt t k i) := by
  apply (hs.at i).bind
  intro _ _ _ hp
  exact residue_simulates hp.1 hm

/-- The residues follow those of the integers, as many and in the same order. -/
theorem solve_simulates {a b m : α} {i j k : Int} (ha : Reads a i) (hb : Reads b j)
    (hm : Reads m k) : Simulates (List.Forall₂ Reads) (solve a b m) (solve i j k) := by
  rw [solve_eq, solve_eq, hm.le_eq .zero, hm]
  split
  · exact .failure _
  · apply (Diophantine.solve_simulates ha hm hb).bind
    intro s t _ h
    apply h.2.abs.bind
    intro g _ _ hg
    rw [hg]
    apply Follows.bind (R := Eq)
    · exact .refl _
    · intro n _ _ hn
      rw [hn]
      exact .mapM _ fun l _ ↦ residueAt_simulates h.1 hm l

/-- An inverse follows that of the integers. -/
theorem inverse_simulates {n m : α} {j k : Int} (hn : Reads n j) (hm : Reads m k) :
    Simulates Reads (inverse n m) (inverse j k) := by
  rw [inverse_eq, inverse_eq, hm.le_eq .zero, hm]
  split
  · exact .failure _
  · apply (Diophantine.solve_simulates hn hm .one).bind
    intro _ _ _ h
    exact residueAt_simulates h.1 hm 0

end Congruence

end Aliquot
