import Aliquot.Proofs.Dispatch
import Aliquot.Proofs.Shift
import Aliquot.Proofs.Unbounded
import Mathlib.Algebra.Order.Ring.Int

/-!
# Signed magnitudes as integers

The signed magnitudes of a width are the integers up to the greatest magnitude on both sides of
zero. Operators and methods on them give what the integers give, or overflow where that is out of
range, and one of the operands may be an unbounded integer in range.
-/

namespace Aliquot

open CheckedInt

namespace Value

variable {r : Rep} {u v : Value} {j k : Int}

/-- The call ends with the value for `k` when the representation holds `k`, and overflows
otherwise. -/
structure ReturnsOrOverflows (r : Rep) (answer : Answer Value) (k : Int) : Prop where
  value : r.Represents k → Returns r answer k
  overflow : ¬r.Represents k → ∃ e, answer = .error e ∧ e.IsOverflow

/-- A conversion gives the value for an integer or overflows. -/
theorem returnsOrOverflows_of_eq {answer : Answer Value}
    (h : answer = (ofCarrier r <$> (ofInt k : Checked r.Carrier)).mapError .failure) :
    ReturnsOrOverflows r answer k where
  value hk := by
    obtain ⟨z, hz⟩ := Rep.exists_ofInt_of_represents hk
    exact ⟨z, by rw [h, hz]; rfl, toInt_of_ofInt_eq_ok hz⟩
  overflow hk := by
    cases hz : (ofInt k : Checked r.Carrier) with
    | error e =>
      rw [hz] at h
      exact ⟨_, h, Fault.isOverflow_failure (isOverflow_of_ofInt_eq_error hz)⟩
    | ok z => exact absurd (Rep.holds_iff.mp ⟨z, hz⟩) hk

/-- An operator that is exact or overflows gives what it gives on the integers. -/
theorem Operands.exists_returns (hb : r ≠ .unbounded) (h : Operands r [u, v] [j, k])
    (op : Number.BinaryOp) {f : Int → Int → Int}
    (hop : ∀ x y : r.Carrier, op r x y = ofInt (f (toInt x) (toInt y))) :
    ∃ m n : Number, u = number m ∧ v = number n ∧
      ∀ symbol, ReturnsOrOverflows r (arithmetic symbol op m n) (f j k) := by
  obtain ⟨m, n, x, y, rfl, rfl, hx, hy, heq⟩ := h.exists_arithmetic hb
  refine ⟨m, n, rfl, rfl, fun symbol ↦ returnsOrOverflows_of_eq ?_⟩
  rw [heq, hop, hx, hy]

/-- A sum is that of the integers. -/
theorem Operands.returns_add (hb : r ≠ .unbounded) (h : Operands r [u, v] [j, k]) :
    ReturnsOrOverflows r (add u v) (j + k) := by
  obtain ⟨m, n, rfl, rfl, hadd⟩ := h.exists_returns hb .add add_eq
  exact hadd "+"

/-- A difference is that of the integers. -/
theorem Operands.returns_sub (hb : r ≠ .unbounded) (h : Operands r [u, v] [j, k]) :
    ReturnsOrOverflows r (sub u v) (j - k) := by
  obtain ⟨m, n, rfl, rfl, hsub⟩ := h.exists_returns hb .sub sub_eq
  exact hsub "-"

/-- A product is that of the integers. -/
theorem Operands.returns_mul (hb : r ≠ .unbounded) (h : Operands r [u, v] [j, k]) :
    ReturnsOrOverflows r (mul u v) (j * k) := by
  obtain ⟨m, n, rfl, rfl, hmul⟩ := h.exists_returns hb .mul mul_eq
  exact hmul "*"

/-- A conjunction never fails, and on integers that are not negative it is theirs. -/
theorem Operands.exists_land (hb : r ≠ .unbounded) (h : Operands r [u, v] [j, k]) :
    ∃ z : r.Carrier, land u v = .ok (ofCarrier r z) ∧
      (0 ≤ j → 0 ≤ k → Reads z (j.toNat &&& k.toNat : Nat)) := by
  obtain ⟨m, n, x, y, rfl, rfl, hx, hy, hop⟩ := h.exists_arithmetic hb
  refine ⟨CheckedInt.land x y, hop "&" .land, fun hj hk ↦ ?_⟩
  lift j to Nat using hj
  lift k to Nat using hk
  have hland := toInt_land (x := x) (y := y) (by rw [hx]; omega) (by rw [hy]; omega)
  rwa [hx, hy] at hland

/-- Operands are equal when their integers are. -/
theorem Operands.eq_eq_decide (hb : r ≠ .unbounded) (h : Operands r [u, v] [j, k]) :
    eq u v = decide (j = k) := by
  obtain ⟨m, n, rfl, rfl, rfl, rfl, hc⟩ := h.exists_comparable hb
  exact Number.eq_of_comparable hc

/-- Operands are in the order of their integers. -/
theorem Operands.compare_less (hb : r ≠ .unbounded) (h : Operands r [u, v] [j, k]) :
    compare .less u v = .ok (decide (j < k)) := by
  obtain ⟨m, n, rfl, rfl, rfl, rfl, hc⟩ := h.exists_comparable hb
  rw [compare, show holds? .less (number m) (number n) = _ from
    Number.compare?_of_comparable .less hc]
  rfl

end Value

namespace SignMagnitude

variable {w : Width} {v : Value} {k : Int}

/-- A signed magnitude among other operands. -/
def toValue (x : SignMagnitude w) : Value := Value.ofCarrier (.signMagnitude w) x


/-- What is no further from zero than a signed magnitude is represented. -/
theorem represents_of_natAbs_le (x : SignMagnitude w) (h : k.natAbs ≤ x.toInt.natAbs) :
    Rep.Represents (.signMagnitude w) k := by
  have hx : (x.toInt.natAbs : Int) ≤ (Format.unsigned w).max :=
    Rep.represents_toInt (r := .signMagnitude w) x
  change (k.natAbs : Int) ≤ _
  omega

/-- A value that is found without a failure is returned. -/
theorem returns_toValue {x : SignMagnitude w} (h : .ok x = ofInt w k) :
    Value.Returns (.signMagnitude w) (.ok x.toValue) k :=
  ⟨x, rfl, toInt_of_ofInt_eq_ok h.symm⟩

/-- A division whose result is no further from zero than the dividend ends with the value for it,
unless the divisor is zero. -/
theorem divide_toValue (op : Number.BinaryOp) {f : Int → Int → Int}
    (hop : ∀ x y : SignMagnitude w, op (.signMagnitude w) x y =
      if y.toInt = 0 then .error .divisionByZero else ofInt w (f x.toInt y.toInt))
    (hf : ∀ i j, (f i j).natAbs ≤ i.natAbs) (x : SignMagnitude w)
    (hv : Value.StandsFor (.signMagnitude w) k v) :
    (k ≠ 0 → Value.Returns (.signMagnitude w) (Value.divide op ⟨.signMagnitude w, x⟩ v)
      (f x.toInt k)) ∧
    (k = 0 → Value.divide op ⟨.signMagnitude w, x⟩ v = .error (.failure .divisionByZero)) := by
  obtain ⟨n, y, rfl, hy, hn⟩ := hv.exists_operand (Rep.signMagnitude_ne_unbounded w)
  have hy : y.toInt = k := hy
  rw [Value.divide_of_operand? (x := x) op hn, hop, hy]
  refine ⟨fun hk ↦ ?_, fun hk ↦ by rw [if_pos hk]; rfl⟩
  rw [if_neg hk]
  exact (Value.returnsOrOverflows_of_eq rfl).value (represents_of_natAbs_le x (hf ..))

/-- The quotient is that of the integers. -/
theorem quo_toValue (x : SignMagnitude w) (hv : Value.StandsFor (.signMagnitude w) k v) :
    (k ≠ 0 → Value.Returns (.signMagnitude w) (Value.quo x.toValue v) (x.toInt.tdiv k)) ∧
    (k = 0 → Value.quo x.toValue v = .error (.failure .divisionByZero)) :=
  divide_toValue .quo quo_eq Int.natAbs_tdiv_le_natAbs x hv

/-- The remainder is that of the integers. -/
theorem rem_toValue (x : SignMagnitude w) (hv : Value.StandsFor (.signMagnitude w) k v) :
    (k ≠ 0 → Value.Returns (.signMagnitude w) (Value.rem x.toValue v) (x.toInt.tmod k)) ∧
    (k = 0 → Value.rem x.toValue v = .error (.failure .divisionByZero)) :=
  divide_toValue .rem rem_eq natAbs_tmod_le x hv

/-- The distance is that of the integers. -/
theorem absSub_toValue (x : SignMagnitude w) (hv : Value.StandsFor (.signMagnitude w) k v) :
    Value.ReturnsOrOverflows (.signMagnitude w) (Value.absSub x.toValue v)
      (x.toInt - k).natAbs := by
  obtain ⟨n, y, rfl, hy, hn⟩ := hv.exists_operand (Rep.signMagnitude_ne_unbounded w)
  have hy : y.toInt = k := hy
  apply Value.returnsOrOverflows_of_eq
  rw [toValue, Value.absSub_of_operand? hn, absSub_eq, hy]
  rfl

/-- The product is optional, and nothing where it overflows. -/
theorem mul?_toValue (x : SignMagnitude w) (hv : Value.StandsFor (.signMagnitude w) k v) :
    (Rep.Represents (.signMagnitude w) (x.toInt * k) →
      ∃ z : SignMagnitude w, Value.mul? x.toValue v = .ok (some z.toValue) ∧
        z.toInt = x.toInt * k) ∧
    (¬Rep.Represents (.signMagnitude w) (x.toInt * k) → Value.mul? x.toValue v = .ok none) := by
  obtain ⟨n, y, rfl, hy, hn⟩ := hv.exists_operand (Rep.signMagnitude_ne_unbounded w)
  have hy : y.toInt = k := hy
  have hmul : Value.mul? x.toValue (.number n) =
      .ok ((ofInt w (x.toInt * k)).toOption.map toValue) := by
    rw [← hy, ← mul_eq, ← mul?_eq_toOption]
    exact Value.mul?_of_operand? (x := x) (Rep.signMagnitude_ne_unbounded w) hn
  rw [hmul]
  constructor
  · intro hk
    obtain ⟨z, hz⟩ : ∃ z, ofInt w (x.toInt * k) = .ok z := Rep.exists_ofInt_of_represents hk
    rw [hz]
    exact ⟨z, rfl, toInt_of_ofInt_eq_ok hz⟩
  · intro hk
    cases hz : ofInt w (x.toInt * k) with
    | error e => rfl
    | ok z => exact absurd ((Rep.holds_iff (r := .signMagnitude w)).mp ⟨z, hz⟩) hk

/-- One with the sign of a value, multiplied by its absolute value, is the value. -/
theorem signum_mul_abs (x : SignMagnitude w) : x.signum.mul x.abs = .ok x := by
  have hsignum : x.signum.toInt = if x.negative then -1 else 1 := toInt_ofParts ..
  have habs : x.abs.toInt = x.magnitude.val := toInt_ofParts ..
  have hx : x.signum.toInt * x.abs.toInt = x.toInt := by
    rw [hsignum, habs, toInt]
    cases x.negative <;> simp
  rw [mul_eq, hx, ofInt_toInt]

/-- A magnitude has as many bits as its width. -/
theorem magnitude_lt (m : Fixed (.unsigned w)) : m.val < twoPow w.bits :=
  ((Format.represents_iff_of_not_isSigned rfl).mp m.represents_val).2

/-- A value that is not negative is multiplied by a power of two, less what leaves the width. -/
theorem toInt_shl {x : SignMagnitude w} (h : 0 ≤ x.toInt) (n : Nat) :
    (x.shl n).toInt = x.toInt * 2 ^ n % 2 ^ w.bits := by
  have hn : x.negative = false := by
    rw [negative_eq_decide]
    simpa using h
  have hemod : (x.magnitude.shl n).val % twoPow w.bits =
      x.magnitude.val * twoPow n % twoPow w.bits := Fixed.val_shl_emod x.magnitude n
  rw [Int.emod_eq_of_lt (magnitude_nonneg _) (magnitude_lt _)] at hemod
  rw [shl, toInt_ofParts, hn, toInt_of_nonneg h]
  exact_mod_cast hemod

/-- A value is moved down by its magnitude. -/
theorem shr_toValue (x : SignMagnitude w) (n : Nat) :
    Value.shr x.toValue (Value.int n) = .ok (x.shr n).toValue :=
  Value.shr_eq (Rep.signMagnitude_ne_unbounded w) x (Value.counts_int n)

/-- A value is moved up by its magnitude, unless it is not zero and the places are more than can be
held. -/
theorem shlWithin_toValue (limit : Nat) (x : SignMagnitude w) (n : Nat) :
    Value.shlWithin limit x.toValue (Value.int n) = .ok (x.shl n).toValue ∨
      x.toInt ≠ 0 ∧ min limit (2 ^ 65) ≤ n ∧
        (Value.shlWithin limit x.toValue (Value.int n) = .error .outOfMemory ∨
          Value.shlWithin limit x.toValue (Value.int n) = .error .tooManyDigits) :=
  Value.shlWithin_ok_or_fault (Rep.signMagnitude_ne_unbounded w) x (Value.counts_int n)

/-- The signed magnitudes of the width `w` compute as the integers that they stand for. An operator
has one of them on either side and one of them or an unbounded integer in range on the other; a
method takes either beside the value it is called on. -/
structure RefinesIntegers (w : Width) : Prop where
  add : ∀ {u v j k}, Value.Operands (.signMagnitude w) [u, v] [j, k] →
    Value.ReturnsOrOverflows (.signMagnitude w) (u.add v) (j + k)
  sub : ∀ {u v j k}, Value.Operands (.signMagnitude w) [u, v] [j, k] →
    Value.ReturnsOrOverflows (.signMagnitude w) (u.sub v) (j - k)
  mul : ∀ {u v j k}, Value.Operands (.signMagnitude w) [u, v] [j, k] →
    Value.ReturnsOrOverflows (.signMagnitude w) (u.mul v) (j * k)
  absSub : ∀ (x : SignMagnitude w) {v k}, Value.StandsFor (.signMagnitude w) k v →
    Value.ReturnsOrOverflows (.signMagnitude w) (x.toValue.absSub v) (x.toInt - k).natAbs
  /-- The optional product is nothing where the product overflows. -/
  mul? : ∀ (x : SignMagnitude w) {v k}, Value.StandsFor (.signMagnitude w) k v →
    (Rep.Represents (.signMagnitude w) (x.toInt * k) → ∃ z : SignMagnitude w,
      x.toValue.mul? v = .ok (some z.toValue) ∧ z.toInt = x.toInt * k) ∧
    (¬Rep.Represents (.signMagnitude w) (x.toInt * k) → x.toValue.mul? v = .ok none)
  neg : ∀ x : SignMagnitude w, Value.Returns (.signMagnitude w) x.toValue.neg (-x.toInt)
  abs : ∀ x : SignMagnitude w, Value.Returns (.signMagnitude w) x.toValue.abs x.toInt.natAbs
  quo : ∀ (x : SignMagnitude w) {v k}, Value.StandsFor (.signMagnitude w) k v →
    (k ≠ 0 → Value.Returns (.signMagnitude w) (x.toValue.quo v) (x.toInt.tdiv k)) ∧
    (k = 0 → x.toValue.quo v = .error (.failure .divisionByZero))
  rem : ∀ (x : SignMagnitude w) {v k}, Value.StandsFor (.signMagnitude w) k v →
    (k ≠ 0 → Value.Returns (.signMagnitude w) (x.toValue.rem v) (x.toInt.tmod k)) ∧
    (k = 0 → x.toValue.rem v = .error (.failure .divisionByZero))
  signum : ∀ x : SignMagnitude w, ∃ sign distance, x.toValue.signum = .ok sign ∧
    x.toValue.abs = .ok distance ∧ sign.mul distance = .ok x.toValue
  eq : ∀ {u v j k}, Value.Operands (.signMagnitude w) [u, v] [j, k] → u.eq v = decide (j = k)
  lt : ∀ {u v j k}, Value.Operands (.signMagnitude w) [u, v] [j, k] →
    Value.compare .less u v = .ok (decide (j < k))
  land : ∀ {u v j k}, Value.Operands (.signMagnitude w) [u, v] [j, k] →
    ∃ z : SignMagnitude w, u.land v = .ok z.toValue ∧
      (0 ≤ j → 0 ≤ k → z.toInt = (j.toNat &&& k.toNat : Nat))
  shr : ∀ (x : SignMagnitude w) (n : Nat), x.toValue.shr (.int n) = .ok (x.shr n).toValue ∧
    (0 ≤ x.toInt → (x.shr n).toInt = x.toInt >>> n)
  /-- All places are made before those beyond the width are dropped. Where `limit` places are more
  than can be held, so many of them stop the shift, and `2 ^ 65` may stop it anywhere. -/
  shl : ∀ (limit : Nat) (x : SignMagnitude w) (n : Nat),
    (0 ≤ x.toInt → (x.shl n).toInt = x.toInt * 2 ^ n % 2 ^ w.bits) ∧
    (Value.shlWithin limit x.toValue (.int n) = .ok (x.shl n).toValue ∨
      x.toInt ≠ 0 ∧ min limit (2 ^ 65) ≤ n ∧
        (Value.shlWithin limit x.toValue (.int n) = .error .outOfMemory ∨
          Value.shlWithin limit x.toValue (.int n) = .error .tooManyDigits))
  /-- The shift is the one for the memory that there is. -/
  shl_eq : ∀ x : SignMagnitude w, x.toValue.shl = Value.shlWithin (2 ^ 36) x.toValue
  /-- The flag is set only beside a magnitude that is not zero. -/
  canonical : ∀ z : SignMagnitude w, z.negative = true → z.magnitude.val ≠ 0

/-- Signed magnitudes of every width compute as the integers. -/
theorem refinesIntegers (w : Width) : RefinesIntegers w where
  add h := h.returns_add (Rep.signMagnitude_ne_unbounded w)
  sub h := h.returns_sub (Rep.signMagnitude_ne_unbounded w)
  mul h := h.returns_mul (Rep.signMagnitude_ne_unbounded w)
  absSub x _ _ h := absSub_toValue x h
  mul? x _ _ h := mul?_toValue x h
  neg x := returns_toValue (neg_eq x)
  abs x := returns_toValue (abs_eq x)
  quo x _ _ h := quo_toValue x h
  rem x _ _ h := rem_toValue x h
  signum x := by
    refine ⟨x.signum.toValue, x.abs.toValue, rfl, rfl, ?_⟩
    change Value.arithmetic "*" .mul ⟨.signMagnitude w, x.signum⟩ ⟨.signMagnitude w, x.abs⟩ = _
    rw [Value.arithmetic_self]
    exact congrArg (Except.mapError Fault.failure <| toValue <$> ·) x.signum_mul_abs
  eq h := h.eq_eq_decide (Rep.signMagnitude_ne_unbounded w)
  lt h := h.compare_less (Rep.signMagnitude_ne_unbounded w)
  land h := h.exists_land (Rep.signMagnitude_ne_unbounded w)
  shr x n := ⟨shr_toValue x n, fun h ↦ (toInt_shr h n).trans (Int.shiftRight_eq_div_pow ..).symm⟩
  shl limit x n := ⟨fun h ↦ toInt_shl h n, shlWithin_toValue limit x n⟩
  shl_eq _ := rfl
  canonical z hn hz := by
    rw [z.negative_eq_false hz] at hn
    cases hn

/-- With magnitudes of eight bits the sum of `-200` and an unbounded `100` is `-100`, and the sum of
an unbounded `-100` and `-200` overflows. -/
theorem add_eight_bit_magnitudes :
    let x : SignMagnitude .w8 := ofParts ⟨200, by decide, by decide⟩ true
    Value.Returns (.signMagnitude .w8) (x.toValue.add (.int 100)) (-100) ∧
      ∃ e, (Value.int (-100)).add x.toValue = .error e ∧ e.IsOverflow := by
  intro x
  have hplain (k : Int) (hk : (k.natAbs : Int) ≤ (Format.unsigned .w8).max) :
      Value.StandsFor (.signMagnitude .w8) k (.int k) := .plain hk
  have hown : Value.StandsFor (.signMagnitude .w8) (-200) x.toValue := .own rfl
  constructor
  · exact ((refinesIntegers .w8).add ⟨.cons hown (.cons (hplain 100 (by decide)) .nil),
      x, List.mem_cons_self⟩).value (by decide : (100 : Int) ≤ (Format.unsigned .w8).max)
  · exact ((refinesIntegers .w8).add ⟨.cons (hplain (-100) (by decide)) (.cons hown .nil),
      x, List.mem_cons_of_mem _ List.mem_cons_self⟩).overflow
        (by decide : ¬(300 : Int) ≤ (Format.unsigned .w8).max)

/-- With magnitudes of eight bits one is not moved up by `10 ^ 20` places, although all of them
would be dropped. -/
theorem one_shl_fails :
    let x : SignMagnitude .w8 := one .w8
    let n : Nat := 100000000000000000000
    0 ≤ x.toInt ∧ ¬Value.Returns (.signMagnitude .w8) (x.toValue.shl (.int n))
      (x.toInt * 2 ^ n % 2 ^ Width.bits .w8) := by
  intro x n
  have hfault : x.toValue.shl (.int n) = .error .tooManyDigits := by
    rw [toValue, Value.shl,
      Value.shlWithin_eq (Rep.signMagnitude_ne_unbounded _) x (Value.counts_int n), Value.shiftUp,
      if_neg (by decide), if_pos (by decide)]
    rfl
  refine ⟨by decide, ?_⟩
  rintro ⟨z, hz, -⟩
  cases hfault.symm.trans hz

end SignMagnitude

end Aliquot
