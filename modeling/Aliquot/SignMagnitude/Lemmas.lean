import Aliquot.Fixed.Lemmas
import Aliquot.SignMagnitude.Basic

/-!
# Laws of sign and magnitude

Each integer has at most one value, and `ofInt` inverts the reading of a value. Every operation on
flags and magnitudes is `ofInt` of the operation on integers, with the same failures.
-/

namespace Aliquot.SignMagnitude

variable {w : Width}

/-- A magnitude is not negative. -/
theorem magnitude_nonneg (m : Fixed (.unsigned w)) : 0 ≤ m.val := m.min_le_val

/-- The flag of `ofParts` is meant as a sign. -/
@[simp] theorem toInt_ofParts (m : Fixed (.unsigned w)) (n : Bool) :
    (ofParts m n).toInt = if n then -m.val else m.val := by
  unfold ofParts toInt
  cases n <;> simp +contextual

/-- A value is put together from its own parts. -/
theorem ofParts_eta (x : SignMagnitude w) : ofParts x.magnitude x.negative = x := by
  obtain ⟨n, m, h⟩ := x
  unfold ofParts
  ext
  · cases n with
    | false => rfl
    | true =>
      have hm : m.val ≠ 0 := fun hm ↦ Bool.noConfusion (h hm)
      simp [hm]
  · rfl

/-- The magnitude is the absolute value of the integer. -/
theorem natAbs_toInt (x : SignMagnitude w) : (x.toInt.natAbs : Int) = x.magnitude.val := by
  have := magnitude_nonneg x.magnitude
  unfold toInt
  split <;> omega

/-- The flag is set on exactly the values below zero. -/
theorem negative_iff {x : SignMagnitude w} : x.negative = true ↔ x.toInt < 0 := by
  have h := x.negative_eq_false
  have hm := magnitude_nonneg x.magnitude
  unfold toInt
  cases hn : x.negative with
  | false =>
    rw [if_neg Bool.false_ne_true]
    exact iff_of_false Bool.false_ne_true (Int.not_lt.mpr hm)
  | true =>
    have hz : x.magnitude.val ≠ 0 := fun hz ↦ Bool.noConfusion (hn.symm.trans (h hz))
    rw [if_pos rfl]
    exact iff_of_true rfl (by omega)

/-- The flag as a statement about the integer. -/
theorem negative_eq_decide (x : SignMagnitude w) : x.negative = decide (x.toInt < 0) := by
  rw [Bool.eq_iff_iff, negative_iff, decide_eq_true_iff]

/-- Values with the same integer are equal. -/
theorem toInt_inj {x y : SignMagnitude w} : x.toInt = y.toInt ↔ x = y := by
  refine ⟨fun h ↦ ?_, fun h ↦ h ▸ rfl⟩
  ext
  · rw [negative_eq_decide, negative_eq_decide, h]
  · rw [← natAbs_toInt, ← natAbs_toInt, h]

/-- Every value is the value for its integer. -/
@[simp] theorem ofInt_toInt (x : SignMagnitude w) : ofInt w x.toInt = .ok x := by
  unfold ofInt ofMagnitude
  rw [natAbs_toInt, Fixed.ofInt_val, ← negative_eq_decide]
  exact congrArg Except.ok (ofParts_eta x)

/-- The value for an integer reads back as that integer. -/
theorem toInt_of_ofInt_eq_ok {k : Int} {x : SignMagnitude w} (h : ofInt w k = .ok x) :
    x.toInt = k := by
  obtain ⟨m, hm, h⟩ := exists_of_bind_eq_ok h
  cases h
  rw [toInt_ofParts, Fixed.val_of_ofInt_eq_ok hm]
  by_cases hk : k < 0
  · rw [decide_eq_true hk, if_pos rfl]
    omega
  · rw [decide_eq_false hk, if_neg Bool.false_ne_true]
    omega

/-- A conversion fails only for want of range. -/
theorem isOverflow_of_ofInt_eq_error {k : Int} {e : Failure} (h : ofInt w k = .error e) :
    e.IsOverflow := by
  unfold ofInt ofMagnitude at h
  cases hm : Fixed.ofInt (.unsigned w) k.natAbs with
  | error d =>
    rw [hm] at h
    cases h
    exact Fixed.isOverflow_of_ofInt_eq_error hm
  | ok m =>
    rw [hm] at h
    cases h

/-- The value for an integer, from the conversion of a magnitude. -/
theorem ofInt_eq_map (k : Int) (m : Int) (n : Bool) (hm : 0 ≤ m)
    (hk : k = if n then -m else m) :
    ofInt w k = (Fixed.ofInt (.unsigned w) m).map (ofParts · n) := by
  have hn : (k.natAbs : Int) = m := by
    subst hk
    split <;> omega
  cases h : (Fixed.ofInt (.unsigned w) m) with
  | error e =>
    unfold ofInt ofMagnitude
    rw [hn, h]
    rfl
  | ok y =>
    have hv := Fixed.val_of_ofInt_eq_ok h
    have he : k = (ofParts y n).toInt := by rw [toInt_ofParts, hv, hk]
    rw [he, ofInt_toInt]
    rfl

/-- Adding a magnitude with a sign adds the integer that they stand for. -/
theorem addSigned_eq (x : SignMagnitude w) (m : Fixed (.unsigned w)) (n : Bool) :
    x.addSigned m n = ofInt w (x.toInt + if n then -m.val else m.val) := by
  have hx := magnitude_nonneg x.magnitude
  have hm := magnitude_nonneg m
  unfold addSigned
  split
  · next h =>
    subst h
    rw [ofInt_eq_map _ (x.magnitude.val + m.val) x.negative (by omega)
      (by unfold toInt; split <;> omega)]
    rfl
  · next h =>
    split
    · next hle =>
      rw [ofInt_eq_map _ (x.magnitude.val - m.val) x.negative (by omega)
        (by unfold toInt; cases hn : x.negative <;> cases n <;> simp_all <;> omega)]
      rfl
    · next hle =>
      rw [ofInt_eq_map _ (m.val - x.magnitude.val) n (by omega)
        (by unfold toInt; cases hn : x.negative <;> cases n <;> simp_all <;> omega)]
      rfl

/-- The sum is the sum of the integers. -/
theorem add_eq (x y : SignMagnitude w) : x.add y = ofInt w (x.toInt + y.toInt) :=
  addSigned_eq x y.magnitude y.negative

/-- The difference is the difference of the integers. -/
theorem sub_eq (x y : SignMagnitude w) : x.sub y = ofInt w (x.toInt - y.toInt) := by
  unfold sub
  rw [addSigned_eq]
  congr 1
  rw [show y.toInt = if y.negative then -y.magnitude.val else y.magnitude.val from rfl]
  cases y.negative with
  | false =>
    simp only [Bool.not_false, if_true, Bool.false_eq_true, if_false]
    omega
  | true =>
    simp only [Bool.not_true, Bool.false_eq_true, if_false, if_true]
    omega

/-- The distance is the absolute value of the difference. -/
theorem absSub_eq (x y : SignMagnitude w) :
    x.absSub y = ofInt w (x.toInt - y.toInt).natAbs := by
  have hx := natAbs_toInt x
  have hy := natAbs_toInt y
  unfold absSub
  rw [negative_eq_decide, negative_eq_decide]
  split
  · next h =>
    rw [ne_eq, decide_eq_decide] at h
    rw [ofInt_eq_map _ (x.magnitude.val + y.magnitude.val) false (by omega)
      (by rw [if_neg Bool.false_ne_true]; omega)]
    rfl
  · next h =>
    rw [ne_eq, Decidable.not_not, decide_eq_decide] at h
    split
    · next hle =>
      rw [ofInt_eq_map _ (x.magnitude.val - y.magnitude.val) false (by omega)
        (by rw [if_neg Bool.false_ne_true]; omega)]
      rfl
    · next hle =>
      rw [ofInt_eq_map _ (y.magnitude.val - x.magnitude.val) false (by omega)
        (by rw [if_neg Bool.false_ne_true]; omega)]
      rfl

private theorem signed_mul (m n : Int) (p q : Bool) :
    (if p then -m else m) * (if q then -n else n) = if (p != q) then -(m * n) else m * n :=
  match p, q with
  | false, false => rfl
  | false, true => Int.mul_neg m n
  | true, false => Int.neg_mul m n
  | true, true => Int.neg_mul_neg m n

private theorem signed_tdiv (m n : Int) (p q : Bool) :
    (if p then -m else m).tdiv (if q then -n else n) =
      if (p != q) then -(m.tdiv n) else m.tdiv n := by
  cases p <;> cases q <;> simp [Int.neg_tdiv, Int.tdiv_neg]

private theorem signed_tmod (m n : Int) (p q : Bool) :
    (if p then -m else m).tmod (if q then -n else n) = if p then -(m.tmod n) else m.tmod n := by
  cases p <;> cases q <;> simp [Int.neg_tmod, Int.tmod_neg]

/-- The product is the product of the integers. -/
theorem mul_eq (x y : SignMagnitude w) : x.mul y = ofInt w (x.toInt * y.toInt) := by
  rw [ofInt_eq_map (x.toInt * y.toInt) (x.magnitude.val * y.magnitude.val)
    (x.negative != y.negative)
    (Int.mul_nonneg (magnitude_nonneg _) (magnitude_nonneg _))
    (signed_mul _ _ x.negative y.negative)]
  rfl

/-- The optional product is there when the product is. -/
theorem mul?_eq_toOption (x y : SignMagnitude w) : mul? x y = (mul x y).toOption := by
  unfold mul? mul
  rw [Fixed.mul?_eq_toOption]
  cases x.magnitude.mul y.magnitude <;> rfl

/-- Negation never fails. -/
theorem neg_eq (x : SignMagnitude w) : .ok x.neg = ofInt w (-x.toInt) := by
  have h : x.neg.toInt = -x.toInt := by
    unfold neg
    rw [toInt_ofParts]
    unfold toInt
    cases x.negative <;> simp
  rw [← h, ofInt_toInt]

/-- The absolute value never fails. -/
theorem abs_eq (x : SignMagnitude w) : .ok x.abs = ofInt w x.toInt.natAbs := by
  have h : x.abs.toInt = x.toInt.natAbs := by
    unfold abs
    rw [toInt_ofParts, natAbs_toInt]
    rfl
  rw [← h, ofInt_toInt]

private theorem toInt_eq_zero_iff {x : SignMagnitude w} : x.toInt = 0 ↔ x.magnitude.val = 0 := by
  have := natAbs_toInt x
  omega

/-- The quotient is the quotient of the integers. -/
theorem quo_eq (x y : SignMagnitude w) :
    x.quo y =
      if y.toInt = 0 then .error .divisionByZero else ofInt w (x.toInt.tdiv y.toInt) := by
  unfold quo Fixed.quo
  simp only [toInt_eq_zero_iff]
  split
  · rfl
  · rw [ofInt_eq_map (x.toInt.tdiv y.toInt) (x.magnitude.val.tdiv y.magnitude.val)
      (x.negative != y.negative)
      (Int.tdiv_nonneg (magnitude_nonneg _) (magnitude_nonneg _))
      (signed_tdiv _ _ x.negative y.negative)]
    rfl

/-- The remainder is the remainder of the integers. -/
theorem rem_eq (x y : SignMagnitude w) :
    x.rem y =
      if y.toInt = 0 then .error .divisionByZero else ofInt w (x.toInt.tmod y.toInt) := by
  unfold rem Fixed.rem
  simp only [toInt_eq_zero_iff]
  split
  · rfl
  · rw [ofInt_eq_map (x.toInt.tmod y.toInt) (x.magnitude.val.tmod y.magnitude.val) x.negative
      (Int.tmod_nonneg _ (magnitude_nonneg _)) (signed_tmod _ _ x.negative y.negative)]
    rfl

/-- Equality of flags and magnitudes is equality of integers. -/
theorem eq_iff {x y : SignMagnitude w} : eq x y = true ↔ x.toInt = y.toInt := by
  rw [toInt_inj, SignMagnitude.ext_iff]
  simp [eq, Fixed.eq_iff, Fixed.val_inj]

/-- Order by flags and magnitudes is the order of the integers. -/
theorem lt_iff {x y : SignMagnitude w} : lt x y = true ↔ x.toInt < y.toInt := by
  have hx := x.negative_eq_false
  have hy := y.negative_eq_false
  have := magnitude_nonneg x.magnitude
  have := magnitude_nonneg y.magnitude
  unfold lt toInt
  cases hn : x.negative <;> cases hm : y.negative <;> simp_all [Fixed.lt_iff] <;> omega

/-- A value that is not negative is its magnitude. -/
theorem toInt_of_nonneg {x : SignMagnitude w} (h : 0 ≤ x.toInt) : x.toInt = x.magnitude.val := by
  have := natAbs_toInt x
  omega

/-- On a value that is not negative a right shift divides, rounding down. -/
theorem toInt_shr {x : SignMagnitude w} (h : 0 ≤ x.toInt) (k : Nat) :
    (x.shr k).toInt = x.toInt / twoPow k := by
  rw [toInt_of_nonneg h, shr, toInt_ofParts, Fixed.val_shr]
  rfl

/-- On values that are not negative the conjunction is that of the integers. -/
theorem toInt_land {x y : SignMagnitude w} (hx : 0 ≤ x.toInt) (hy : 0 ≤ y.toInt) :
    (x.land y).toInt = TwosComplement.land x.toInt y.toInt := by
  have hn : x.negative = false := by rw [negative_eq_decide]; simpa using hx
  rw [land, toInt_ofParts, hn, Fixed.val_land, toInt_of_nonneg hx, toInt_of_nonneg hy]
  rfl

end Aliquot.SignMagnitude
