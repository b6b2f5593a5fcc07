import Aliquot.BitLength
import Aliquot.CheckedInt.Basic
import Aliquot.Fixed.Lemmas
import Aliquot.SignMagnitude.Lemmas

/-!
# The types of checked integers

Unbounded integers never fail but for a division by zero; fixed-width integers and signed magnitudes
fail where a result leaves their range.

Source: what `bezout.numeric` and `bezout.sign_magnitude` implement of `Numeric`, and the generic
operations of `bezout.numeric` on plain integers.
-/

namespace Aliquot

private theorem lt_twoPow_nativeWidth (k : Int) : k < twoPow (nativeWidth k) := by
  have := natAbs_lt_twoPow_bitLength k
  have := twoPow_lt_twoPow (bitLength_lt_nativeWidth k)
  omega

/-- An integer moved `n` binary places up. Zero stays what it is, so its power of two is not
made. -/
def shiftUp (k : Int) (n : Nat) : Int := if k = 0 then 0 else k * twoPow n

/-- Moving up multiplies by a power of two. -/
theorem shiftUp_eq (k : Int) (n : Nat) : shiftUp k n = k * twoPow n := by
  unfold shiftUp
  split
  · next h => rw [h, Int.zero_mul]
  · rfl

/-- Unbounded integers, whose width grows with the value. -/
instance : CheckedInt Int where
  typeName := "int"
  toInt k := k
  ofInt k := .ok k
  zero := 0
  one := 1
  add j k := .ok (j + k)
  sub j k := .ok (j - k)
  mul j k := .ok (j * k)
  mul? j k := some (j * k)
  neg k := .ok (-k)
  abs k := .ok k.natAbs
  quo j k := if k = 0 then .error .divisionByZero else .ok (j.tdiv k)
  rem j k := if k = 0 then .error .divisionByZero else .ok (j.tmod k)
  land := TwosComplement.land
  shl := shiftUp
  shr k n := k >>> n
  eq j k := j == k
  lt j k := decide (j < k)
  width := nativeWidth
  toInt_of_ofInt_eq_ok h := (Except.ok.inj h).symm
  ofInt_toInt _ := rfl
  isOverflow_of_ofInt_eq_error h := nomatch h
  exists_ofInt_eq_ok _ _ := ⟨_, rfl⟩
  toInt_zero := rfl
  toInt_one := rfl
  add_eq _ _ := rfl
  sub_eq _ _ := rfl
  mul_eq _ _ := rfl
  mul?_eq _ _ := rfl
  neg_eq _ := rfl
  abs_eq _ := rfl
  quo_eq _ _ := rfl
  rem_eq _ _ := rfl
  toInt_land _ _ := rfl
  shl_eq _ h := (shiftUp_eq ..).trans (Except.ok.inj h)
  toInt_shr k _ := Int.shiftRight_eq_div_pow _ k
  eq_iff := beq_iff_eq
  lt_iff := decide_eq_true_iff
  lt_twoPow_width := lt_twoPow_nativeWidth
  exists_width_eq := exists_nativeWidth_eq

private theorem exists_bits_eq (f : Format) : ∃ j, f.bits = 8 * twoPow j := by
  have hw (w : Width) : ∃ j, w.bits = 8 * twoPow j := by
    cases w with
    | w8 => exact ⟨0, rfl⟩
    | w16 => exact ⟨1, rfl⟩
    | w32 => exact ⟨2, rfl⟩
    | w64 => exact ⟨3, rfl⟩
    | w128 => exact ⟨4, rfl⟩
  cases f with
  | word => exact ⟨3, rfl⟩
  | signed w => exact hw w
  | unsigned w => exact hw w

private theorem fixed_shl_eq {f : Format} {x y : Fixed f} {k : Nat}
    (h : Fixed.ofInt f (x.val * twoPow k) = .ok y) : x.shl k = y := by
  apply Fixed.eq_of_val_emod_eq
  rw [Fixed.val_shl_emod, Fixed.val_of_ofInt_eq_ok h]

private theorem fixed_exists_ofInt {f : Format} {k : Int} {x : Fixed f} (h₀ : 0 ≤ k)
    (h : k ≤ x.val) : ∃ y, Fixed.ofInt f k = .ok y :=
  have hk : f.Represents k :=
    ⟨Int.le_trans f.represents_zero.1 h₀, Int.le_trans h x.val_le_max⟩
  ⟨_, Fixed.ofInt_of_represents hk⟩

/-- Fixed-width integers, all held in the width of their format. -/
instance (f : Format) : CheckedInt (Fixed f) where
  typeName := f.typeName
  toInt := Fixed.val
  ofInt := Fixed.ofInt f
  zero := Fixed.zero f
  one := Fixed.one f
  add := Fixed.add
  sub := Fixed.sub
  mul := Fixed.mul
  mul? := Fixed.mul?
  neg := Fixed.neg
  abs := Fixed.abs
  quo := Fixed.quo
  rem := Fixed.rem
  land := Fixed.land
  shl := Fixed.shl
  shr := Fixed.shr
  eq := Fixed.eq
  lt := Fixed.lt
  width _ := f.bits
  toInt_of_ofInt_eq_ok := Fixed.val_of_ofInt_eq_ok
  ofInt_toInt := Fixed.ofInt_val
  isOverflow_of_ofInt_eq_error := Fixed.isOverflow_of_ofInt_eq_error
  exists_ofInt_eq_ok := fixed_exists_ofInt
  toInt_zero := rfl
  toInt_one := rfl
  add_eq _ _ := rfl
  sub_eq _ _ := rfl
  mul_eq _ _ := rfl
  mul?_eq := Fixed.mul?_eq_toOption
  neg_eq _ := rfl
  abs_eq _ := rfl
  quo_eq _ _ := rfl
  rem_eq _ _ := rfl
  toInt_land _ _ := rfl
  shl_eq _ := fixed_shl_eq
  toInt_shr k _ := Fixed.val_shr _ k
  eq_iff := Fixed.eq_iff
  lt_iff := Fixed.lt_iff
  lt_twoPow_width x := by
    have := Format.natAbs_lt_twoPow_bits x.represents_val
    omega
  exists_width_eq _ := exists_bits_eq f

private theorem signMagnitude_shl_eq {w : Width} {x y : SignMagnitude w} {k : Nat}
    (hx : 0 ≤ x.toInt) (h : SignMagnitude.ofInt w (x.toInt * twoPow k) = .ok y) :
    x.shl k = y := by
  have hm := SignMagnitude.toInt_of_nonneg hx
  have hp : (0 : Int) ≤ x.magnitude.val * twoPow k :=
    Int.mul_nonneg (SignMagnitude.magnitude_nonneg _) (Int.natCast_nonneg _)
  rw [SignMagnitude.ofInt_eq_map _ (x.magnitude.val * twoPow k) false hp (by simp [hm])] at h
  obtain ⟨z, hf, hz⟩ := exists_of_map_eq_ok h
  have hn : x.negative = false := by
    rw [SignMagnitude.negative_eq_decide]
    simpa using hx
  rw [SignMagnitude.shl, fixed_shl_eq hf, hn]
  exact hz

private theorem signMagnitude_exists_ofInt {w : Width} {k : Int} {x : SignMagnitude w}
    (h₀ : 0 ≤ k) (h : k ≤ x.toInt) : ∃ y, SignMagnitude.ofInt w k = .ok y := by
  have hm := SignMagnitude.natAbs_toInt x
  obtain ⟨y, hy⟩ := fixed_exists_ofInt (x := x.magnitude) h₀ (by omega)
  rw [SignMagnitude.ofInt_eq_map k k false h₀ rfl, hy]
  exact ⟨_, rfl⟩

/-- Signed magnitudes, held in the width of the magnitude. -/
instance (w : Width) : CheckedInt (SignMagnitude w) where
  typeName := SignMagnitude.typeName w
  toInt := SignMagnitude.toInt
  ofInt := SignMagnitude.ofInt w
  zero := SignMagnitude.zero w
  one := SignMagnitude.one w
  add := SignMagnitude.add
  sub := SignMagnitude.sub
  mul := SignMagnitude.mul
  mul? := SignMagnitude.mul?
  neg x := .ok x.neg
  abs x := .ok x.abs
  quo := SignMagnitude.quo
  rem := SignMagnitude.rem
  land := SignMagnitude.land
  shl := SignMagnitude.shl
  shr := SignMagnitude.shr
  eq := SignMagnitude.eq
  lt := SignMagnitude.lt
  width _ := w.bits
  toInt_of_ofInt_eq_ok := SignMagnitude.toInt_of_ofInt_eq_ok
  ofInt_toInt := SignMagnitude.ofInt_toInt
  isOverflow_of_ofInt_eq_error := SignMagnitude.isOverflow_of_ofInt_eq_error
  exists_ofInt_eq_ok := signMagnitude_exists_ofInt
  toInt_zero := rfl
  toInt_one := rfl
  add_eq := SignMagnitude.add_eq
  sub_eq := SignMagnitude.sub_eq
  mul_eq := SignMagnitude.mul_eq
  mul?_eq := SignMagnitude.mul?_eq_toOption
  neg_eq := SignMagnitude.neg_eq
  abs_eq := SignMagnitude.abs_eq
  quo_eq := SignMagnitude.quo_eq
  rem_eq := SignMagnitude.rem_eq
  toInt_land := SignMagnitude.toInt_land
  shl_eq := signMagnitude_shl_eq
  toInt_shr k h := SignMagnitude.toInt_shr h k
  eq_iff := SignMagnitude.eq_iff
  lt_iff := SignMagnitude.lt_iff
  lt_twoPow_width x := by
    have h : x.magnitude.val.natAbs < twoPow w.bits :=
      Format.natAbs_lt_twoPow_bits x.magnitude.represents_val
    have := SignMagnitude.natAbs_toInt x
    omega
  exists_width_eq _ := exists_bits_eq (.unsigned w)

end Aliquot
