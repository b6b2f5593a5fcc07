import Aliquot.Proofs.Power
import Aliquot.Proofs.Range
import Aliquot.Proofs.Simulation.Power
import Mathlib.Tactic.GCongr
import Mathlib.Tactic.Positivity

/-!
# Powers without an overflow

A reduced product is smaller than the modulus, so a type in which the modulus is small enough holds
every product that the loop makes, however many digits the exponent has. The result that the loop
starts with is not reduced, but one.
-/

namespace Aliquot

open CheckedInt

variable {α : Type} [CheckedInt α] {least greatest : Int}

/-- A product that the type holds is reduced to less than the modulus. -/
theorem exists_mulMod (hr : HasRange α least greatest) {a b m : α} (hm : toInt m ≠ 0)
    (h : Holds α (toInt a * toInt b)) :
    ∃ y, mulMod a b m = .ok y ∧ (toInt y).natAbs < (toInt m).natAbs := by
  obtain ⟨product, hmul, hread⟩ := Attains.mul (x := a) (y := b) rfl rfl h
  obtain ⟨y, hrem, hy⟩ := Attains.rem hread (y := m) rfl hm
    (hr.holds_of_between h (tmod_between ..))
  refine ⟨y, ?_, ?_⟩
  · rw [mulMod, mul?_eq, hmul]
    exact hrem
  · rw [hy]
    exact natAbs_tmod_lt hm _

/-- The type holds the products of what is smaller than `m` with itself and with `x`. -/
structure HoldsProducts (α : Type) [CheckedInt α] (x m : Int) : Prop where
  square : ∀ {j : Int}, j.natAbs < m.natAbs → Holds α (j * j)
  mul : ∀ {j : Int}, j.natAbs < m.natAbs → Holds α (j * x)

/-- A type holds these products when it holds the greatest ones. -/
theorem HasRange.holdsProducts (hr : HasRange α least greatest) {x m : Int}
    (hsquare : (m.natAbs - 1 : Int) ^ 2 ≤ greatest)
    (hmul : (m.natAbs - 1 : Int) * x.natAbs ≤ greatest) : HoldsProducts α x m where
  square {j} hj := by
    apply hr.holds_of_natAbs_le
    have hle : (j.natAbs : Int) ≤ m.natAbs - 1 := by omega
    calc ((j * j).natAbs : Int) = j.natAbs ^ 2 := by rw [Int.natAbs_mul, sq, Int.natCast_mul]
      _ ≤ (m.natAbs - 1 : Int) ^ 2 := by gcongr
      _ ≤ greatest := hsquare
  mul {j} hj := by
    apply hr.holds_of_natAbs_le
    have hle : (j.natAbs : Int) ≤ m.natAbs - 1 := by omega
    calc ((j * x).natAbs : Int) = j.natAbs * x.natAbs := by rw [Int.natAbs_mul, Int.natCast_mul]
      _ ≤ (m.natAbs - 1 : Int) * x.natAbs := by gcongr
      _ ≤ greatest := hmul

namespace powMod

variable {x n m mask result : α}

/-- The loop ends from every result whose square the type holds. By induction on the digits left:
each round leaves a result below the modulus. -/
theorem exists_loop (hr : HasRange α least greatest) (hm : toInt m ≠ 0)
    (h : HoldsProducts α (toInt x) (toInt m)) (hres : Holds α (toInt result * toInt result)) :
    ∃ y, loop x n m mask result = .ok y := by
  induction mask, result using loop.induct with
  | case1 mask result hmask => exact ⟨result, loop_of_le hmask⟩
  | case2 mask result hmask ih =>
    obtain ⟨s, hs, hslt⟩ := exists_mulMod hr hm hres
    obtain ⟨t, ht, htlt⟩ := exists_mulMod (a := s) (b := x) hr hm (h.mul hslt)
    rw [loop_of_not_le hmask, hs]
    change ∃ y, ((if isZero (land n mask) then .ok s else mulMod s x m) >>=
      loop x n m (shr mask 1)) = .ok y
    split
    · exact ih s (h.square hslt)
    · rw [ht]
      exact ih t (h.square htlt)

end powMod

/-- A power with an exponent that is not negative ends when the type holds the products below the
modulus. -/
theorem exists_powMod_of_holdsProducts (hr : HasRange α least greatest) {x n m : α}
    (hn : 0 ≤ toInt n) (hm : toInt m ≠ 0) (h : HoldsProducts α (toInt x) (toInt m)) :
    ∃ y, powMod x n m = .ok y := by
  have hneg : ¬isNeg n = true := by
    rw [isNeg_iff]
    omega
  rw [powMod, if_neg hneg]
  split
  · exact ⟨one, rfl⟩
  · apply powMod.exists_loop hr hm h
    rw [toInt_one]
    exact Reads.holds toInt_one

/-- In a type up to `greatest` a power to an exponent that is not negative ends with the result on
integers when one less than the modulus has a square in range. Its product with the base has to be
in range as well, unless the base is reduced. -/
theorem powMod_ends_of_small_modulus {r : Rep} {greatest : Int}
    (hg : r.greatest? = some greatest) (hs : r.isUnsigned = false) {x n m : r.Carrier}
    (hn : 0 ≤ toInt n) (hm : toInt m ≠ 0)
    (hsquare : ((toInt m).natAbs - 1 : Int) ^ 2 ≤ greatest)
    (hx : ((toInt m).natAbs - 1 : Int) * (toInt x).natAbs ≤ greatest ∨
      0 ≤ toInt x ∧ toInt x < toInt m) :
    ∃ y, powMod x n m = .ok y ∧ powMod (toInt x) (toInt n) (toInt m) = .ok (toInt y) := by
  obtain ⟨least, hr⟩ := HasRange.exists_of_greatest? hg hs
  have hmul : ((toInt m).natAbs - 1 : Int) * (toInt x).natAbs ≤ greatest := by
    rcases hx with hx | ⟨hx₀, hlt⟩
    · exact hx
    · refine le_trans ?_ hsquare
      rw [sq]
      gcongr
      · omega
      · omega
  obtain ⟨y, hy⟩ := exists_powMod_of_holdsProducts hr hn hm (hr.holdsProducts hsquare hmul)
  have hsim : Simulates Reads (powMod x n m) (powMod (toInt x) (toInt n) (toInt m)) :=
    powMod_simulates rfl rfl rfl
  rw [hy] at hsim
  obtain ⟨k, hk, hread⟩ := hsim.exists_of_ok
  exact ⟨y, hy, hread ▸ hk⟩

/-- In eight bits the power of 11 modulo 12 ends with the greatest exponent, and so does that of
`-17` modulo `-16` where all eight bits are for the magnitude. -/
theorem powMod_eight_bits :
    let r := Rep.fixed (.signed .w8)
    let s := Rep.signMagnitude .w8
    let x : r.Carrier := ⟨11, by decide, by decide⟩
    let n : r.Carrier := ⟨127, by decide, by decide⟩
    let m : r.Carrier := ⟨12, by decide, by decide⟩
    let x' : s.Carrier := .ofParts ⟨17, by decide, by decide⟩ true
    let n' : s.Carrier := .ofParts ⟨255, by decide, by decide⟩ false
    let m' : s.Carrier := .ofParts ⟨16, by decide, by decide⟩ true
    r.greatest? = some 127 ∧ s.greatest? = some 255 ∧
      (∃ y, powMod x n m = .ok y ∧ powMod (11 : Int) 127 12 = .ok (toInt y)) ∧
      ∃ y, powMod x' n' m' = .ok y ∧ powMod (-17 : Int) 255 (-16) = .ok (toInt y) := by
  intro r s x n m x' n' m'
  have hr : r.greatest? = some 127 := by decide
  have hs : s.greatest? = some 255 := by decide
  exact ⟨hr, hs,
    powMod_ends_of_small_modulus hr rfl (by decide) (by decide) (by decide) (.inr (by decide)),
    powMod_ends_of_small_modulus hs rfl (by decide) (by decide) (by decide) (.inl (by decide))⟩

end Aliquot
