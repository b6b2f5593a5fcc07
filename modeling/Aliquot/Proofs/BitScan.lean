import Aliquot.BitScan

/-!
# Exactness of the bit scan

The scan finds the binary logarithm of every value that is not negative, whatever the width that it
starts from, and the mask of a positive value is the greatest power of two not above it.
-/

namespace Aliquot.BitScan

open CheckedInt

variable {α : Type} [CheckedInt α]

/-- The table holds binary logarithms. -/
theorem nibbleTop_eq_log2 {k : Nat} (h : k < 16) : nibbleTop k = k.log2 := by
  have ht : ∀ i : Fin 16, nibbleTop i.val = i.val.log2 := by decide
  exact ht ⟨k, h⟩

/-- The places that a division by a power of two drops are missing in the logarithm. -/
theorem log2_eq_add_log2_div {n k : Nat} (h : n / twoPow k ≠ 0) :
    n.log2 = k + (n / twoPow k).log2 := by
  have hn : n ≠ 0 := by
    intro hn
    rw [hn, Nat.zero_div] at h
    exact h rfl
  obtain ⟨hl, hu⟩ := (Nat.log2_eq_iff h).mp rfl
  have hp := twoPow_pos k
  rw [Nat.le_div_iff_mul_le hp] at hl
  rw [Nat.div_lt_iff_lt_mul hp] at hu
  rw [Nat.log2_eq_iff hn, Nat.add_assoc]
  exact ⟨by rwa [Nat.add_comm k, Nat.pow_add], by rwa [Nat.add_comm k, Nat.pow_add]⟩

/-- A window of four bits is not narrowed. -/
theorem narrow_four (n : α) (index : Nat) : narrow (4 * twoPow 0) n index = (index, n) := by
  rw [narrow, dif_pos (by decide)]

/-- A wider window is halved: the upper half is kept when it holds a set bit. -/
theorem narrow_double (j : Nat) (n : α) (index : Nat) :
    narrow (4 * twoPow (j + 1)) n index =
      if isZero (shr n (4 * twoPow j)) then narrow (4 * twoPow j) n index
      else narrow (4 * twoPow j) (shr n (4 * twoPow j)) (index + 4 * twoPow j) := by
  have hp := twoPow_pos j
  have hh : 4 * twoPow (j + 1) / 2 = 4 * twoPow j := by
    rw [twoPow_succ]
    omega
  rw [narrow, dif_neg (by rw [twoPow_succ]; omega)]
  simp only [hh]

/-- The window found holds less than sixteen, and its logarithm lies above its position. By
induction on the halvings; the value always fits in its window. -/
theorem narrow_log2 {j : Nat} {n : α} {k : Nat} (index : Nat) (hn : toInt n = k)
    (h : k < twoPow (4 * twoPow j)) :
    ∃ l < 16, toInt (narrow (4 * twoPow j) n index).2 = (l : Nat) ∧
      (narrow (4 * twoPow j) n index).1 + l.log2 = index + k.log2 := by
  induction j generalizing n k index with
  | zero =>
    rw [narrow_four]
    exact ⟨k, h, hn, rfl⟩
  | succ j ih =>
    have hp := twoPow_pos (4 * twoPow j)
    have hs : toInt (shr n (4 * twoPow j)) = (k / twoPow (4 * twoPow j) : Nat) := by
      rw [toInt_shr _ (by omega), hn]
      rfl
    rw [twoPow_succ, Nat.mul_left_comm, Nat.two_mul, twoPow_add] at h
    rw [narrow_double]
    split
    · next hz =>
      rw [isZero_iff, hs, Int.natCast_eq_zero] at hz
      exact ih index hn ((Nat.div_eq_zero_iff_lt hp).mp hz)
    · next hz =>
      rw [isZero_iff, hs, Int.natCast_eq_zero] at hz
      obtain ⟨l, hl, hv, he⟩ := ih (index + 4 * twoPow j) hs (Nat.div_lt_of_lt_mul h)
      refine ⟨l, hl, hv, ?_⟩
      rw [he, log2_eq_add_log2_div hz, Nat.add_assoc]

/-- The scan of the whole width of a value that is not negative ends at an entry of the table. -/
theorem narrow_width {n : α} {k : Nat} (hn : toInt n = k) :
    ∃ l < 16, toInt (narrow (width n) n 0).2 = (l : Nat) ∧
      (narrow (width n) n 0).1 + l.log2 = k.log2 := by
  obtain ⟨j, hj⟩ := exists_width_eq n
  have hw : width n = 4 * twoPow (j + 1) := by
    rw [hj, twoPow_succ]
    omega
  have hk : k < twoPow (4 * twoPow (j + 1)) := by
    have := lt_twoPow_width n
    rw [hn, hw] at this
    exact Int.ofNat_lt.mp this
  rw [hw, ← Nat.zero_add k.log2]
  exact narrow_log2 0 hn hk

/-- A value that is not negative is scanned. -/
theorem topBitIndex_of_nonneg {n : α} (h : 0 ≤ toInt n) :
    topBitIndex n = (narrow (width n) n 0).1 + nibbleTop (toInt (narrow (width n) n 0).2) := by
  have hneg : ¬isNeg n = true := by
    rw [isNeg_iff]
    omega
  rw [topBitIndex, if_neg hneg]

/-- A negative value is not scanned. -/
theorem topBitIndex_of_neg {n : α} (h : toInt n < 0) : topBitIndex n = width n := by
  rw [topBitIndex, if_pos (isNeg_iff.mpr h)]

/-- The scan of a value that is not negative finds its binary logarithm; that of zero is zero. -/
theorem topBitIndex_eq_log2 {n : α} {k : Nat} (hn : toInt n = k) : topBitIndex n = k.log2 := by
  obtain ⟨l, hl, hv, he⟩ := narrow_width hn
  rw [topBitIndex_of_nonneg (by omega), hv, nibbleTop_eq_log2 hl, he]

/-- A value that is not negative is looked up at an index of the table. -/
theorem exists_nibble {n : α} (h : 0 ≤ toInt n) :
    ∃ k : Fin 16, toInt (narrow (width n) n 0).2 = (k.val : Nat) ∧
      topBitIndex n = (narrow (width n) n 0).1 + nibbleTable[k] := by
  obtain ⟨l, hl, hv, -⟩ := narrow_width (Int.toNat_of_nonneg h).symm
  refine ⟨⟨l, hl⟩, hv, ?_⟩
  rw [topBitIndex_of_nonneg h, hv]
  simp [nibbleTop, hl]

/-- The position found for a positive value is that of its highest set bit. -/
theorem topBitIndex_bounds {n : α} (h : 0 < toInt n) :
    twoPow (topBitIndex n) ≤ toInt n ∧ toInt n < twoPow (topBitIndex n + 1) := by
  obtain ⟨k, hk⟩ := Int.eq_ofNat_of_zero_le (Int.le_of_lt h)
  have hne : k ≠ 0 := by omega
  rw [topBitIndex_eq_log2 hk, hk]
  exact ⟨Int.ofNat_le.mpr (Nat.log2_self_le hne), Int.ofNat_lt.mpr Nat.lt_log2_self⟩

/-- There is no mask for a value that is not positive. -/
theorem toInt_topBit_of_nonpos {n : α} (h : toInt n ≤ 0) : toInt (topBit n) = 0 := by
  have hle : le n zero = true := by
    rw [le_iff, toInt_zero]
    exact h
  rw [topBit, if_pos hle, toInt_zero]

/-- The mask of a positive value is the power of two with its binary logarithm. A type that
represents the value represents the mask, which is why the shift loses nothing. -/
theorem toInt_topBit {n : α} {k : Nat} (hn : toInt n = k) (hk : k ≠ 0) :
    toInt (topBit n) = twoPow k.log2 := by
  have hle : ¬le n zero = true := by
    rw [le_iff, toInt_zero]
    omega
  have hb : twoPow k.log2 ≤ k := Nat.log2_self_le hk
  obtain ⟨y, hy⟩ := exists_ofInt_eq_ok (x := n) (k := twoPow k.log2) (Int.natCast_nonneg _)
    (by omega)
  have hs : shl one k.log2 = y := by
    apply shl_eq
    · rw [toInt_one]
      decide
    · rw [toInt_one, Int.one_mul]
      exact hy
  rw [topBit, if_neg hle, topBitIndex_eq_log2 hn, hs]
  exact toInt_of_ofInt_eq_ok hy

/-- The mask of a positive value has its highest set bit. -/
theorem toInt_topBit_of_pos {n : α} (h : 0 < toInt n) :
    toInt (topBit n) = twoPow (topBitIndex n) := by
  obtain ⟨k, hk⟩ := Int.eq_ofNat_of_zero_le (Int.le_of_lt h)
  rw [topBitIndex_eq_log2 hk, toInt_topBit hk (by omega)]

end Aliquot.BitScan
