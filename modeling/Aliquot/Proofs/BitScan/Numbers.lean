import Aliquot.Proofs.BitScan
import Aliquot.Proofs.Simulation.Operands
import Mathlib.Algebra.Order.Ring.Int
import Mathlib.Order.Bounds.Basic

/-!
# The bit scan on numbers of any type

The scan of a number finds its highest set bit and the mask of that bit alone, whether the number is
bounded, and with or without a sign. Its first window is the width of the number; that of an
unbounded integer is the least one with room for a sign.
-/

namespace Aliquot.Value

open CheckedInt

/-- The width is a power of two, eight or more, and leaves a bit for a sign beside the digits of
`k`. -/
def SignedWidth (k : Int) (w : Nat) : Prop := (∃ j, w = 2 ^ j) ∧ 8 ≤ w ∧ k.natAbs < 2 ^ (w - 1)

/-- The native width leaves a bit for a sign, and no smaller one does. -/
theorem isLeast_nativeWidth (k : Int) : IsLeast {w | SignedWidth k w} (nativeWidth k) := by
  refine ⟨⟨?_, ?_, ?_⟩, ?_⟩
  · obtain ⟨j, hj⟩ := exists_nativeWidth_eq k
    refine ⟨3 + j, ?_⟩
    rw [hj]
    exact (twoPow_add 3 j).symm
  · obtain ⟨j, hj⟩ := exists_nativeWidth_eq k
    have := twoPow_pos j
    omega
  · have := bitLength_lt_nativeWidth k
    exact bitLength_le_iff.mp (by omega)
  · rintro _ ⟨⟨j, rfl⟩, h₈, h⟩
    exact nativeWidth_le h₈ h

/-- The position that the scan of a number finds is that of its highest set bit, and the mask is the
value of the same type with that bit alone. -/
structure ScansExactly (x : Number) : Prop where
  positive : 0 < x.toInt → ∃ i, topBitIndex (number x) = .ok i ∧ 2 ^ i ≤ x.toInt ∧
    x.toInt < 2 ^ (i + 1) ∧ Returns x.rep (topBit (number x)) (2 ^ i)
  zero : x.toInt = 0 → topBitIndex (number x) = .ok 0 ∧ Returns x.rep (topBit (number x)) 0
  /-- A negative number is not scanned, and its width is reported. -/
  negative : x.toInt < 0 →
    topBitIndex (number x) = width (number x) ∧ Returns x.rep (topBit (number x)) 0
  unbounded : x.rep = .unbounded →
    ∃ w, width (number x) = .ok w ∧ IsLeast {w | SignedWidth x.toInt w} w
  /-- What is left of a scanned number in the last window is an index of the table. -/
  nibble : 0 ≤ x.toInt → ∃ k : Fin 16, toInt (BitScan.narrow x.width x.val 0).2 = (k.val : Nat) ∧
    topBitIndex (number x) = .ok ((BitScan.narrow x.width x.val 0).1 + BitScan.nibbleTable[k])

/-- The scan is exact on the numbers of every type. -/
theorem scansExactly (x : Number) : ScansExactly x where
  positive h := by
    obtain ⟨hl, hu⟩ := BitScan.topBitIndex_bounds h
    have hm := BitScan.toInt_topBit_of_pos h
    rw [cast_twoPow] at hl hu hm
    exact ⟨_, rfl, hl, hu, _, rfl, hm⟩
  zero h := by
    have hi : BitScan.topBitIndex x.val = 0 := BitScan.topBitIndex_eq_log2 (k := 0) h
    exact ⟨congrArg Except.ok hi, _, rfl, BitScan.toInt_topBit_of_nonpos (Int.le_of_eq h)⟩
  negative h := by
    have hi : BitScan.topBitIndex x.val = x.width := BitScan.topBitIndex_of_neg h
    exact ⟨congrArg Except.ok hi, _, rfl, BitScan.toInt_topBit_of_nonpos (Int.le_of_lt h)⟩
  unbounded h := by
    obtain ⟨_, k⟩ := x
    subst h
    exact ⟨_, rfl, isLeast_nativeWidth k⟩
  nibble h := by
    obtain ⟨k, hk, hi⟩ := BitScan.exists_nibble h
    exact ⟨k, hk, congrArg Except.ok hi⟩

/-- The mask of `255` is `128` where eight bits are all that a number has, and the scan of an
unbounded `-5` reports a width. -/
theorem scan_eight_bits :
    let x : SignMagnitude .w8 := .ofParts ⟨255, by decide, by decide⟩ false
    (∃ i, topBitIndex (ofCarrier (.signMagnitude .w8) x) = .ok i ∧ 2 ^ i ≤ (255 : Int) ∧
      (255 : Int) < 2 ^ (i + 1) ∧
      Returns (.signMagnitude .w8) (topBit (ofCarrier (.signMagnitude .w8) x)) (2 ^ i)) ∧
    topBitIndex (int (-5)) = width (int (-5)) := by
  intro x
  exact ⟨(scansExactly ⟨.signMagnitude .w8, x⟩).positive (by decide),
    ((scansExactly (.unbounded (-5))).negative (by decide)).1⟩

end Aliquot.Value
