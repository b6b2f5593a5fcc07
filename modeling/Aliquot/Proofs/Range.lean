import Aliquot.Proofs.Simulation.Basic
import Aliquot.Representation
import Mathlib.Algebra.Order.Ring.Int

/-!
# Ranges of bounded types

A bounded type with a sign represents the integers between two bounds, the lower of which is as far
from zero as the upper one or one further. An operation ends with a result whenever the exact result
lies between the bounds.
-/

namespace Aliquot

open CheckedInt

/-- A power of two as an integer. -/
theorem cast_twoPow (n : Nat) : (twoPow n : Int) = 2 ^ n := Int.natCast_pow 2 n

/-- The type has a value for the integer. -/
def Holds (α : Type) [CheckedInt α] (k : Int) : Prop := ∃ x : α, ofInt k = .ok x

section Representation

/-- A representable integer has a value. -/
theorem Rep.exists_ofInt_of_represents {r : Rep} {k : Int} (h : r.Represents k) :
    ∃ x : r.Carrier, ofInt k = .ok x := by
  cases r with
  | unbounded => exact ⟨k, rfl⟩
  | fixed f => exact ⟨_, Fixed.ofInt_of_represents h⟩
  | signMagnitude w =>
    have hm : (Format.unsigned w).Represents k.natAbs := ⟨Int.natCast_nonneg _, h⟩
    refine ⟨.ofParts ⟨k.natAbs, hm.1, hm.2⟩ (decide (k < 0)), ?_⟩
    change SignMagnitude.ofMagnitude w k.natAbs (decide (k < 0)) = _
    rw [SignMagnitude.ofMagnitude, Fixed.ofInt_of_represents hm]
    rfl

/-- What a value stands for is representable. -/
theorem Rep.represents_toInt {r : Rep} (x : r.Carrier) : r.Represents (toInt x) := by
  cases r with
  | unbounded => exact trivial
  | fixed f => exact x.represents_val
  | signMagnitude w =>
    change (x.toInt.natAbs : Int) ≤ _
    rw [SignMagnitude.natAbs_toInt]
    exact x.magnitude.val_le_max

/-- A type has values for the integers that are called representable in it. -/
theorem Rep.holds_iff {r : Rep} {k : Int} : Holds r.Carrier k ↔ r.Represents k := by
  refine ⟨?_, exists_ofInt_of_represents⟩
  rintro ⟨x, hx⟩
  rw [← toInt_of_ofInt_eq_ok hx]
  exact represents_toInt x

/-- What lies between zero and a representable integer is representable. -/
theorem Rep.represents_of_between {r : Rep} {j k : Int} (hk : r.Represents k)
    (h : 0 ≤ j ∧ j ≤ k ∨ k ≤ j ∧ j ≤ 0) : r.Represents j := by
  cases r with
  | unbounded => exact trivial
  | fixed f =>
    obtain ⟨hmin, hmax⟩ := f.represents_zero
    obtain ⟨hl, hu⟩ : f.min ≤ k ∧ k ≤ f.max := hk
    exact ⟨by omega, by omega⟩
  | signMagnitude w =>
    change (k.natAbs : Int) ≤ _ at hk
    change (j.natAbs : Int) ≤ _
    omega

/-- The greatest integer that a type represents; every integer is exceeded in the unbounded one. -/
def Rep.greatest? : Rep → Option Int
  | unbounded => none
  | fixed f => some f.max
  | signMagnitude w => some (Format.unsigned w).max

/-- Only the unbounded integers have no greatest one. -/
theorem Rep.exists_greatest?_eq {r : Rep} (h : r ≠ .unbounded) : ∃ k, r.greatest? = some k := by
  cases r with
  | unbounded => exact absurd rfl h
  | fixed f => exact ⟨_, rfl⟩
  | signMagnitude w => exact ⟨_, rfl⟩

/-- Every type represents two. -/
theorem Rep.two_le_of_greatest?_eq {r : Rep} {greatest : Int} (h : r.greatest? = some greatest) :
    2 ≤ greatest := by
  cases r with
  | unbounded => cases h
  | fixed f =>
    cases h
    exact f.two_le_max
  | signMagnitude w =>
    cases h
    exact (Format.unsigned w).two_le_max

/-- The integer is the least one of a fixed width. -/
def Rep.IsFixedLeast (r : Rep) (k : Int) : Prop := ∃ f, r = .fixed f ∧ k = f.min

/-- A fixed width has one least integer. -/
theorem Rep.isFixedLeast_fixed {f : Format} {k : Int} :
    (Rep.fixed f).IsFixedLeast k ↔ k = f.min := by
  constructor
  · rintro ⟨g, hg, hk⟩
    cases hg
    exact hk
  · intro hk
    exact ⟨f, rfl, hk⟩

/-- Apart from the least integer of a fixed width, an integer of a type with a sign is no further
from zero than the greatest one. -/
theorem Rep.natAbs_toInt_le {r : Rep} {greatest : Int} (hg : r.greatest? = some greatest)
    (hs : r.isUnsigned = false) {x : r.Carrier} (hx : ¬r.IsFixedLeast (toInt x)) :
    ((toInt x).natAbs : Int) ≤ greatest := by
  have hrep := Rep.represents_toInt x
  cases r with
  | unbounded => cases hg
  | fixed f =>
    cases hg
    have hmin := Format.min_eq_of_isSigned (f := f) (by simpa [Rep.isUnsigned] using hs)
    have hne : toInt x ≠ f.min := fun h ↦ hx ⟨f, rfl, h⟩
    obtain ⟨hl, hu⟩ : f.min ≤ toInt x ∧ toInt x ≤ f.max := hrep
    omega
  | signMagnitude w =>
    cases hg
    exact hrep

/-- Apart from the least integer of a fixed width, a type with a sign has the absolute value of each
of its integers. -/
theorem Rep.represents_natAbs_iff {r : Rep} (hs : r.isUnsigned = false) (x : r.Carrier) :
    r.Represents (toInt x).natAbs ↔ ¬r.IsFixedLeast (toInt x) := by
  constructor
  · rintro habs ⟨f, rfl, hx⟩
    have hmin := Format.min_eq_of_isSigned (f := f) (by simpa [Rep.isUnsigned] using hs)
    have hmax : ((toInt x).natAbs : Int) ≤ f.max := habs.2
    omega
  · intro hx
    cases r with
    | unbounded => exact trivial
    | fixed f => exact ⟨by have := f.represents_zero.1; omega, Rep.natAbs_toInt_le rfl hs hx⟩
    | signMagnitude w => exact Rep.natAbs_toInt_le (r := .signMagnitude w) rfl hs hx

end Representation

/-- The type represents the integers from `least` to `greatest`, where `least` is as far from zero
as `greatest` or one further. -/
structure HasRange (α : Type) [CheckedInt α] (least greatest : Int) : Prop where
  holds_iff : ∀ {k}, Holds α k ↔ least ≤ k ∧ k ≤ greatest
  least_le : least ≤ -greatest
  le_least : -greatest - 1 ≤ least

/-- The run ends with a result that is related to `k`. -/
def Attains {ε β γ : Type} (R : β → γ → Prop) (m : Except ε β) (k : γ) : Prop :=
  ∃ x, m = .ok x ∧ R x k

variable {α : Type} [CheckedInt α] {least greatest : Int}

/-- What a value stands for is held by its type. -/
theorem Reads.holds {x : α} {k : Int} (h : Reads x k) : Holds α k := ⟨x, ofInt_eq_ok_iff.mpr h⟩

namespace HasRange

/-- Fixed-width integers with a sign lie between the bounds of their format. -/
theorem fixed {f : Format} (h : f.isSigned = true) : HasRange (Fixed f) f.min f.max where
  holds_iff := Rep.holds_iff (r := .fixed f)
  least_le := by
    have := Format.min_eq_of_isSigned h
    omega
  le_least := by
    have := Format.min_eq_of_isSigned h
    omega

/-- Signed magnitudes reach as far as a magnitude on both sides of zero. -/
theorem signMagnitude (w : Width) :
    HasRange (SignMagnitude w) (-(Format.unsigned w).max) (Format.unsigned w).max where
  holds_iff {k} := by
    have h : Holds (SignMagnitude w) k ↔ (k.natAbs : Int) ≤ (Format.unsigned w).max :=
      Rep.holds_iff (r := .signMagnitude w)
    rw [h]
    omega
  least_le := Int.le_refl _
  le_least := by omega

/-- A type with a sign has a range up to its greatest integer. -/
theorem exists_of_greatest? {r : Rep} {greatest : Int} (hg : r.greatest? = some greatest)
    (hs : r.isUnsigned = false) : ∃ least, HasRange r.Carrier least greatest := by
  cases r with
  | unbounded => cases hg
  | fixed f =>
    cases hg
    exact ⟨_, fixed (by simpa [Rep.isUnsigned] using hs)⟩
  | signMagnitude w =>
    cases hg
    exact ⟨_, signMagnitude w⟩

/-- Every bounded type with a sign has a range. -/
theorem exists_of_bounded {r : Rep} (hb : r ≠ .unbounded) (hs : r.isUnsigned = false) :
    ∃ least greatest, HasRange r.Carrier least greatest := by
  obtain ⟨greatest, hg⟩ := Rep.exists_greatest?_eq hb
  obtain ⟨least, hr⟩ := exists_of_greatest? hg hs
  exact ⟨least, greatest, hr⟩

/-- What a value stands for lies in the range. -/
theorem of_reads (hr : HasRange α least greatest) {x : α} {k : Int} (h : Reads x k) :
    least ≤ k ∧ k ≤ greatest :=
  hr.holds_iff.mp h.holds

/-- An integer is represented when its absolute value does not exceed the greatest one. -/
theorem holds_of_natAbs_le (hr : HasRange α least greatest) {k : Int}
    (h : (k.natAbs : Int) ≤ greatest) : Holds α k := by
  have := hr.least_le
  exact hr.holds_iff.mpr (by omega)

/-- The range holds more than zero. -/
theorem one_le (hr : HasRange α least greatest) : 1 ≤ greatest :=
  (hr.of_reads (x := (one : α)) toInt_one).2

/-- What lies between zero and a represented integer is represented. -/
theorem holds_of_between (hr : HasRange α least greatest) {j k : Int} (hk : Holds α k)
    (h : 0 ≤ j ∧ j ≤ k ∨ k ≤ j ∧ j ≤ 0) : Holds α j := by
  have := hr.one_le
  have := hr.least_le
  have := hr.holds_iff.mp hk
  exact hr.holds_iff.mpr (by omega)

end HasRange

/-- A conversion ends with a value of the type when the type has one. -/
theorem Holds.attains {k : Int} (h : Holds α k) : Attains Reads (ofInt k : Checked α) k := by
  obtain ⟨x, hx⟩ := h
  exact ⟨x, hx, toInt_of_ofInt_eq_ok hx⟩

namespace Attains

variable {ε β γ δ ζ : Type} {R : β → γ → Prop} {S : δ → ζ → Prop}

/-- A run that ends goes on as its continuation does. -/
theorem bind {m : Except ε β} {k : γ} {f : β → Except ε δ} {l : ζ} (h : Attains R m k)
    (hf : ∀ x, R x k → Attains S (f x) l) : Attains S (m >>= f) l := by
  obtain ⟨x, rfl, hx⟩ := h
  exact hf x hx

/-- A traversal ends when the run of each element does. -/
theorem mapM {ι : Type} {k : ι → Except ε β} {l : ι → γ} (xs : List ι)
    (h : ∀ i ∈ xs, Attains R (k i) (l i)) :
    Attains (List.Forall₂ R) (xs.mapM k) (xs.map l) := by
  induction xs with
  | nil => exact ⟨[], rfl, .nil⟩
  | cons i xs ih =>
    rw [List.mapM_cons]
    apply (h i List.mem_cons_self).bind
    intro x hx
    apply (ih fun j hj ↦ h j (List.mem_cons_of_mem i hj)).bind
    intro us hus
    exact ⟨x :: us, rfl, .cons hx hus⟩

variable {x y : α} {j k : Int}

/-- A sum ends when the type has a value for it. -/
theorem add (hx : Reads x j) (hy : Reads y k) (h : Holds α (j + k)) :
    Attains Reads (add x y) (j + k) := by
  rw [add_eq, hx, hy]
  exact h.attains

/-- A difference ends when the type has a value for it. -/
theorem sub (hx : Reads x j) (hy : Reads y k) (h : Holds α (j - k)) :
    Attains Reads (sub x y) (j - k) := by
  rw [sub_eq, hx, hy]
  exact h.attains

/-- A product ends when the type has a value for it. -/
theorem mul (hx : Reads x j) (hy : Reads y k) (h : Holds α (j * k)) :
    Attains Reads (mul x y) (j * k) := by
  rw [mul_eq, hx, hy]
  exact h.attains

/-- A negated value ends when the type has a value for it. -/
theorem neg (hx : Reads x j) (h : Holds α (-j)) : Attains Reads (neg x) (-j) := by
  rw [neg_eq, hx]
  exact h.attains

/-- An absolute value ends when the type has a value for it. -/
theorem abs (hx : Reads x j) (h : Holds α j.natAbs) : Attains Reads (abs x) (j.natAbs : Int) := by
  rw [CheckedInt.abs_eq, hx]
  exact h.attains

/-- A quotient by a number other than zero ends when the type has a value for it. -/
theorem quo (hx : Reads x j) (hy : Reads y k) (hk : k ≠ 0) (h : Holds α (j.tdiv k)) :
    Attains Reads (quo x y) (j.tdiv k) := by
  rw [quo_eq, hx, hy, if_neg hk]
  exact h.attains

/-- A remainder by a number other than zero ends when the type has a value for it. -/
theorem rem (hx : Reads x j) (hy : Reads y k) (hk : k ≠ 0) (h : Holds α (j.tmod k)) :
    Attains Reads (rem x y) (j.tmod k) := by
  rw [rem_eq, hx, hy, if_neg hk]
  exact h.attains

end Attains

end Aliquot
