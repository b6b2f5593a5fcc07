import Aliquot.CheckedInt.Basic

/-!
# The highest set bit

A binary search over the width of a number finds the half that holds its highest set bit until four
bits are left; a table answers for those.

Source: `leftmost_one_index` and `top_bit_mask` in `bezout.bits`.
-/

namespace Aliquot.BitScan

open CheckedInt

/-- The highest set bit of each pattern of four bits, zero for the empty one. -/
def nibbleTable : Vector Nat 16 := #v[0, 0, 1, 1, 2, 2, 2, 2, 3, 3, 3, 3, 3, 3, 3, 3]

/-- The highest set bit of a number below sixteen. -/
def nibbleTop (k : Int) : Nat := nibbleTable[k.toNat]?.getD 0

variable {α : Type} [CheckedInt α]

/-- Narrows a window of `width` bits to one of four that holds the highest set bit of `n`. Yields
the position of the window, counted from `index`, and what `n` holds from there on. -/
def narrow (width : Nat) (n : α) (index : Nat) : Nat × α :=
  if _h : width ≤ 4 then (index, n)
  else
    let half := width / 2
    let upper := shr n half
    if isZero upper then narrow half n index else narrow half upper (index + half)
termination_by width

/-- The position of the highest set bit, counted from zero; zero for zero, and the width for a
negative number. -/
def topBitIndex (n : α) : Nat :=
  if isNeg n then width n
  else
    let (index, nibble) := narrow (width n) n 0
    index + nibbleTop (toInt nibble)

/-- The greatest power of two that is not above `n`; zero when `n` is not positive. -/
def topBit (n : α) : α :=
  if le n zero then zero else shl one (topBitIndex n)

end Aliquot.BitScan
