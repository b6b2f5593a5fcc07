import Aliquot.Power
import Aliquot.Proofs.BitScan
import Aliquot.Proofs.Simulation.Basic

/-!
# Simulation of powers

The mask that scans the exponent and the products that it selects follow their runs on unbounded
integers, although a mask of a bounded type is made by a shift that can drop bits.
-/

namespace Aliquot

open CheckedInt

variable {α : Type} [CheckedInt α]

namespace Reads

variable {x y : α} {j k : Int}

/-- The conjunction of values that are not negative stands for that of the integers. -/
theorem land (hx : Reads x j) (hy : Reads y k) (hj : 0 ≤ j) (hk : 0 ≤ k) :
    Reads (land x y) (CheckedInt.land j k) := by
  have h := toInt_land (x := x) (y := y) (by rwa [hx]) (by rwa [hy])
  rwa [hx, hy] at h

/-- A right shift of a value that is not negative stands for that of the integer. -/
theorem shr (hx : Reads x j) (hj : 0 ≤ j) (n : Nat) : Reads (shr x n) (CheckedInt.shr j n) := by
  have h := toInt_shr (x := x) n (by rwa [hx])
  rw [hx] at h
  exact h.trans (toInt_shr (x := j) n hj).symm

/-- The mask of a value stands for the mask of its integer. -/
theorem topBit (hx : Reads x j) : Reads (BitScan.topBit x) (BitScan.topBit j) := by
  have hj : toInt j = j := rfl
  by_cases h : 0 < j
  · obtain ⟨k, rfl⟩ := Int.eq_ofNat_of_zero_le (Int.le_of_lt h)
    have hk : k ≠ 0 := by omega
    exact (BitScan.toInt_topBit hx hk).trans (BitScan.toInt_topBit hj hk).symm
  · have hx₀ : toInt x ≤ 0 := by
      rw [hx]
      omega
    have hj₀ : toInt j ≤ 0 := Int.not_lt.mp h
    exact (BitScan.toInt_topBit_of_nonpos hx₀).trans (BitScan.toInt_topBit_of_nonpos hj₀).symm

end Reads

/-- A reduced product follows that of the integers. -/
theorem mulMod_simulates {a b m : α} {i j k : Int} (ha : Reads a i) (hb : Reads b j)
    (hm : Reads m k) : Simulates Reads (mulMod a b m) (mulMod i j k) := by
  unfold mulMod
  obtain h | ⟨z, h, hz⟩ := ha.mul? hb
  · rw [h]
    exact .overflow rfl
  · rw [h]
    exact hz.rem hm

namespace powMod

variable {x n m mask result : α}

/-- The loop follows its run on integers while the exponent is not negative. -/
theorem loop_simulates {a e k d c : Int} (hx : Reads x a) (hn : Reads n e) (he : 0 ≤ e)
    (hm : Reads m k) (hmask : Reads mask d) (hr : Reads result c) :
    Simulates Reads (loop x n m mask result) (loop a e k d c) := by
  induction mask, result using loop.induct generalizing d c with
  | case1 mask result h =>
    rw [loop_of_le h, loop_of_le (hmask.le_eq .zero ▸ h)]
    exact .value hr
  | case2 mask result h ih =>
    have hd : 0 ≤ d := by
      rw [le_iff, hmask, toInt_zero] at h
      omega
    rw [loop_of_not_le h, loop_of_not_le (hmask.le_eq .zero ▸ h),
      (hn.land hmask he hd).isZero_eq]
    apply (mulMod_simulates hr hr hm).bind
    intro _ _ _ hs
    apply Follows.bind (R := Reads)
    · split
      · exact .value hs
      · exact mulMod_simulates hs hx hm
    · intro r _ _ hr
      exact ih r (hmask.shr hd 1) hr

end powMod

/-- A power follows that of the integers. -/
theorem powMod_simulates {x n m : α} {a e k : Int} (hx : Reads x a) (hn : Reads n e)
    (hm : Reads m k) : Simulates Reads (powMod x n m) (powMod a e k) := by
  unfold powMod
  rw [hn.isNeg_eq, hn.isZero_eq, hn]
  split
  · exact .failure _
  · next h =>
    rw [isNeg_iff] at h
    split
    · exact .value .one
    · exact powMod.loop_simulates hx hn (Int.not_lt.mp h) hm hn.topBit .one

end Aliquot
