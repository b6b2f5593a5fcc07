import Aliquot.Fixed.Basic

/-!
# Laws of fixed-width integers

A value is determined by its integer, and `ofInt` inverts the reading of a value: every operation
that can leave the format is `ofInt` of the operation on integers.
-/

namespace Aliquot.Fixed

variable {f : Format}

/-- Values with the same integer are equal. -/
theorem val_inj {x y : Fixed f} : x.val = y.val ↔ x = y :=
  ⟨fun h ↦ Fixed.ext h, fun h ↦ h ▸ rfl⟩

/-- A representable integer has a value. -/
theorem ofInt_of_represents {k : Int} (h : f.Represents k) : ofInt f k = .ok ⟨k, h.1, h.2⟩ :=
  dif_pos h

/-- An integer that is not representable has none, and the failure names it. -/
theorem ofInt_of_not_represents {k : Int} (h : ¬f.Represents k) :
    ofInt f k = .error (.outOfRange k f.typeName) :=
  dif_neg h

/-- The value for an integer reads back as that integer. -/
theorem val_of_ofInt_eq_ok {k : Int} {x : Fixed f} (h : ofInt f k = .ok x) : x.val = k := by
  unfold ofInt at h
  split at h
  · cases h
    rfl
  · cases h

/-- Every value is the value for its integer. -/
@[simp] theorem ofInt_val (x : Fixed f) : ofInt f x.val = .ok x :=
  ofInt_of_represents x.represents_val

/-- A conversion fails only for want of range. -/
theorem isOverflow_of_ofInt_eq_error {k : Int} {e : Failure} (h : ofInt f k = .error e) :
    e.IsOverflow := by
  unfold ofInt at h
  split at h
  · cases h
  · cases h
    rfl

/-- The optional product is there when the product is. -/
theorem mul?_eq_toOption (x y : Fixed f) : mul? x y = (mul x y).toOption := by
  unfold mul? mul ofInt
  split <;> rfl

/-- Equality compares the integers. -/
theorem eq_iff {x y : Fixed f} : eq x y = true ↔ x.val = y.val := by
  simp [eq]

/-- Order compares the integers. -/
theorem lt_iff {x y : Fixed f} : lt x y = true ↔ x.val < y.val := by
  simp [lt]

/-- The value of a bit pattern is congruent to the integer it was taken from. -/
theorem val_wrap_emod (f : Format) (k : Int) :
    (wrap f k).val % twoPow f.bits = k % twoPow f.bits := by
  simp only [wrap, lowBits, TwosComplement.land_ones]
  split
  · rw [Int.sub_emod_right, Int.emod_emod]
  · rw [Int.emod_emod]

/-- Values are equal when they have the same bit pattern. -/
theorem eq_of_val_emod_eq {x y : Fixed f}
    (h : x.val % twoPow f.bits = y.val % twoPow f.bits) : x = y :=
  val_inj.mp (Format.eq_of_emod_eq x.represents_val y.represents_val h)

/-- A left shift multiplies by a power of two, up to the width. -/
theorem val_shl_emod (x : Fixed f) (k : Nat) :
    (x.shl k).val % twoPow f.bits = x.val * twoPow k % twoPow f.bits := by
  unfold shl
  rw [val_wrap_emod]
  split
  · rfl
  · next h =>
    obtain ⟨d, hd⟩ := Nat.exists_eq_add_of_le (Nat.not_lt.mp h)
    rw [hd, twoPow_add, Int.natCast_mul, Int.mul_comm (twoPow f.bits : Int), ← Int.mul_assoc,
      Int.mul_emod_left, Int.zero_emod]

/-- A left shift takes the bit pattern of the product by a power of two. -/
theorem shl_eq_wrap (x : Fixed f) (k : Nat) : x.shl k = wrap f (x.val * twoPow k) :=
  eq_of_val_emod_eq <| (val_shl_emod x k).trans (val_wrap_emod f _).symm

/-- A right shift divides by a power of two, rounding down. -/
theorem val_shr (x : Fixed f) (k : Nat) : (x.shr k).val = x.val / twoPow k :=
  Int.shiftRight_eq_div_pow x.val k

/-- The conjunction of values is the conjunction of their integers. -/
@[simp] theorem val_land (x y : Fixed f) :
    (x.land y).val = TwosComplement.land x.val y.val := rfl

end Aliquot.Fixed
