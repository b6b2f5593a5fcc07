import Aliquot.Proofs.Dispatch
import Aliquot.Proofs.Shift
import Mathlib.Data.Int.ModEq

/-!
# Fixed-width integers as bit vectors

A value is read as the bit vector of its width that its integer has modulo the power of two. Shifts
and conjunctions of values are those of the bit vectors, and the laws of bit vectors hold of them.
A right shift copies the sign bit in a format that has one and fills up with zeros in the others.
-/

namespace Aliquot

namespace Fixed

variable {f : Format}

/-- The bits of a value. -/
def toBits (x : Fixed f) : BitVec f.bits := BitVec.ofInt f.bits x.val

/-- The bits of a value are the numeral of the remainder of its integer. -/
theorem toNat_toBits (x : Fixed f) : (x.toBits.toNat : Int) = x.val % twoPow f.bits := by
  have hp : (0 : Int) < twoPow f.bits := Int.natCast_pos.mpr (twoPow_pos f.bits)
  rw [toBits, BitVec.toNat_ofInt]
  exact Int.toNat_of_nonneg (Int.emod_nonneg _ (Int.ne_of_gt hp))

/-- A value is determined by its bits. -/
theorem toBits_inj {x y : Fixed f} : x.toBits = y.toBits ↔ x = y := by
  refine ⟨fun h ↦ eq_of_val_emod_eq ?_, congrArg toBits⟩
  rw [← toNat_toBits, ← toNat_toBits, h]

/-- With a sign bit, the bits in two's complement are the integer. -/
theorem toInt_toBits (hs : f.isSigned) (x : Fixed f) : x.toBits.toInt = x.val := by
  have hb := f.eight_le_bits
  have hx := (Format.represents_iff_of_isSigned hs).mp x.represents_val
  rw [cast_twoPow] at hx
  exact BitVec.toInt_ofInt_eq_self (by omega) hx.1 hx.2

/-- Without a sign bit, the bits in plain binary are the integer. -/
theorem toNat_toBits_of_not_isSigned (hs : f.isSigned = false) (x : Fixed f) :
    (x.toBits.toNat : Int) = x.val := by
  obtain ⟨hl, hu⟩ := (Format.represents_iff_of_not_isSigned hs).mp x.represents_val
  rw [toNat_toBits, Int.emod_eq_of_lt hl hu]

/-- The bits of a left shift are shifted left. -/
theorem toBits_shl (x : Fixed f) (n : Nat) : (x.shl n).toBits = x.toBits <<< n := by
  apply BitVec.eq_of_toNat_eq
  rw [← Int.natCast_inj, toNat_toBits, val_shl_emod, BitVec.toNat_shiftLeft, Nat.shiftLeft_eq]
  change _ = (((x.toBits.toNat * twoPow n) % twoPow f.bits : Nat) : Int)
  rw [Int.natCast_emod, Int.natCast_mul, toNat_toBits]
  exact ((Int.mod_modEq _ _).mul_right _).symm

/-- The bits of a right shift are shifted right, by copies of the sign bit. -/
theorem toBits_shr_of_isSigned (hs : f.isSigned) (x : Fixed f) (n : Nat) :
    (x.shr n).toBits = x.toBits.sshiftRight n := by
  apply BitVec.eq_of_toInt_eq
  rw [BitVec.toInt_sshiftRight, toInt_toBits hs, toInt_toBits hs]
  rfl

/-- The bits of a right shift are shifted right, by zeros. -/
theorem toBits_shr_of_not_isSigned (hs : f.isSigned = false) (x : Fixed f) (n : Nat) :
    (x.shr n).toBits = x.toBits >>> n := by
  apply BitVec.eq_of_toNat_eq
  rw [← Int.natCast_inj, toNat_toBits_of_not_isSigned hs, val_shr, BitVec.toNat_ushiftRight,
    Nat.shiftRight_eq_div_pow, Int.natCast_ediv, toNat_toBits_of_not_isSigned hs]
  rfl

/-- A bit of a value is the digit of its integer. -/
theorem getLsbD_toBits (x : Fixed f) (i : Nat) :
    x.toBits.getLsbD i = (decide (i < f.bits) && TwosComplement.bit x.val i) := by
  rw [← BitVec.testBit_toNat, toBits, BitVec.toNat_ofInt]
  exact TwosComplement.testBit_emod x.val f.bits i

/-- The bits of a conjunction are the conjunctions of the bits. -/
theorem toBits_land (x y : Fixed f) : (x.land y).toBits = x.toBits &&& y.toBits := by
  apply BitVec.eq_of_getLsbD_eq
  intro i hi
  simp only [BitVec.getLsbD_and, getLsbD_toBits, hi, decide_true, Bool.true_and, val_land,
    TwosComplement.bit_land]

/-- Left shifts add up. -/
theorem shl_shl (x : Fixed f) (m n : Nat) : (x.shl m).shl n = x.shl (m + n) := by
  rw [← toBits_inj, toBits_shl, toBits_shl, toBits_shl, BitVec.shiftLeft_add]

/-- Right shifts add up. -/
theorem shr_shr (x : Fixed f) (m n : Nat) : (x.shr m).shr n = x.shr (m + n) := by
  rw [← val_inj]
  exact (Int.shiftRight_add x.val m n).symm

/-- The conjunction does not depend on the order of the values. -/
theorem land_comm (x y : Fixed f) : x.land y = y.land x := by
  rw [← toBits_inj, toBits_land, toBits_land, BitVec.and_comm]

/-- A left shift gives the only representable integer that is congruent to the product by the power
of two. -/
theorem represents_modEq_iff_eq_val_shl (x : Fixed f) (n : Nat) (k : Int) :
    f.Represents k ∧ k ≡ x.val * 2 ^ n [ZMOD 2 ^ f.bits] ↔ k = (x.shl n).val := by
  have hshl : (x.shl n).val ≡ x.val * 2 ^ n [ZMOD 2 ^ f.bits] := by
    rw [← cast_twoPow, ← cast_twoPow]
    exact val_shl_emod x n
  constructor
  · rintro ⟨hr, hk⟩
    apply Format.eq_of_emod_eq hr (x.shl n).represents_val
    rw [cast_twoPow]
    exact hk.trans hshl.symm
  · rintro rfl
    exact ⟨(x.shl n).represents_val, hshl⟩

/-- Zero stays zero. -/
theorem val_shl_of_eq_zero {x : Fixed f} (h : x.val = 0) (n : Nat) : (x.shl n).val = 0 :=
  ((represents_modEq_iff_eq_val_shl x n 0).mp
    ⟨f.represents_zero, by rw [h, Int.zero_mul]⟩).symm

/-- A value among other operands. -/
def toValue (x : Fixed f) : Value := Value.ofCarrier (.fixed f) x

open Value (Counts shlWithin)

variable {u v c : Value} {limit m n : Nat}

/-- A value is moved down. -/
theorem shr_toValue (x : Fixed f) (h : Counts n v) : x.toValue.shr v = .ok (x.shr n).toValue :=
  Value.shr_eq (Rep.fixed_ne_unbounded f) x h

/-- Two values of a format are combined in it. -/
theorem land_toValue (x y : Fixed f) : x.toValue.land y.toValue = .ok (x.land y).toValue :=
  Value.arithmetic_self (r := .fixed f) "&" .land x y

/-- A value that is moved up by a sum of counts can be moved up by each of them in turn. -/
theorem shlWithin_shlWithin (x : Fixed f) (hl : limit ≤ 2 ^ 65) (hm : Counts m u)
    (hn : Counts n v) (hc : Counts (m + n) c) {z : Value}
    (h : shlWithin limit x.toValue c = .ok z) :
    (shlWithin limit x.toValue u >>= fun y ↦ shlWithin limit y v) = .ok z := by
  have hmove {y : Fixed f} {w : Value} {k : Nat} (hk : Counts k w) (hs : y.val = 0 ∨ k < limit) :
      shlWithin limit y.toValue w = .ok (y.shl k).toValue :=
    Value.shlWithin_of_small (Rep.fixed_ne_unbounded f) y hk (hs.imp_right fun hs ↦ by omega)
  by_cases hs : x.val = 0 ∨ m + n < limit
  · have hu := hmove hm (hs.imp_right (by omega))
    have hv := hmove (y := x.shl m) hn (hs.imp (val_shl_of_eq_zero · m) (by omega))
    rw [hu, ← h, hmove hc hs, ← shl_shl]
    exact hv
  · obtain ⟨hz, hlarge⟩ := not_or.mp hs
    obtain hf | hf := Value.shlWithin_of_large (Rep.fixed_ne_unbounded f) x hc hz
      (Nat.not_lt.mp hlarge)
    · cases hf.symm.trans h
    · cases hf.symm.trans h

/-- The values of the format `f` compute as the bit vectors of its width. -/
structure ActsOnBits (f : Format) : Prop where
  /-- All places are made before those beyond the width are dropped. Where `limit` places are more
  than can be held, so many of them stop the shift, and `2 ^ 65` may stop it anywhere. -/
  shl : ∀ (limit : Nat) (x : Fixed f) {v n}, Counts n v →
    (∃ z : Fixed f, shlWithin limit x.toValue v = .ok z.toValue ∧ z.toBits = x.toBits <<< n ∧
      ∀ k, f.Represents k ∧ k ≡ x.val * 2 ^ n [ZMOD 2 ^ f.bits] ↔ k = z.val) ∨
    x.val ≠ 0 ∧ min limit (2 ^ 65) ≤ n ∧ (shlWithin limit x.toValue v = .error .outOfMemory ∨
      shlWithin limit x.toValue v = .error .tooManyDigits)
  shl_shl : ∀ {limit : Nat} (x : Fixed f) {u v c m n}, limit ≤ 2 ^ 65 →
    Counts m u → Counts n v → Counts (m + n) c → ∀ z, shlWithin limit x.toValue c = .ok z →
      (shlWithin limit x.toValue u >>= fun y ↦ shlWithin limit y v) = .ok z
  /-- The shift is the one for the memory that there is. -/
  shl_eq : ∀ x : Fixed f, x.toValue.shl = shlWithin (2 ^ 36) x.toValue
  /-- The sign bit is copied where there is one, and the integer is divided, rounding down. -/
  shr : ∀ (x : Fixed f) {v n}, Counts n v →
    ∃ z : Fixed f, x.toValue.shr v = .ok z.toValue ∧ z.val = x.val / 2 ^ n ∧
      z.toBits = if f.isSigned then x.toBits.sshiftRight n else x.toBits >>> n
  shr_shr : ∀ (x : Fixed f) {u v c m n}, Counts m u → Counts n v → Counts (m + n) c →
    (x.toValue.shr u >>= fun y ↦ y.shr v) = x.toValue.shr c
  land : ∀ x y : Fixed f, ∃ z : Fixed f, x.toValue.land y.toValue = .ok z.toValue ∧
    z.toBits = x.toBits &&& y.toBits
  land_comm : ∀ x y : Fixed f, x.toValue.land y.toValue = y.toValue.land x.toValue

/-- The values of every format compute as bit vectors. -/
theorem actsOnBits (f : Format) : ActsOnBits f where
  shl limit x v n h := by
    refine (Value.shlWithin_ok_or_fault (Rep.fixed_ne_unbounded f) x h).imp_left fun hok ↦ ?_
    exact ⟨x.shl n, hok, toBits_shl x n, represents_modEq_iff_eq_val_shl x n⟩
  shl_shl x _ _ _ _ _ hl hm hn hc _ h := shlWithin_shlWithin x hl hm hn hc h
  shl_eq _ := rfl
  shr x v n h := by
    refine ⟨x.shr n, shr_toValue x h, (val_shr x n).trans (by rw [cast_twoPow]), ?_⟩
    split
    · next hs => exact toBits_shr_of_isSigned hs x n
    · next hs => exact toBits_shr_of_not_isSigned (Bool.eq_false_iff.mpr hs) x n
  shr_shr x u v c m n hm hn hc := by
    rw [shr_toValue x hm, shr_toValue x hc, ← Fixed.shr_shr]
    exact shr_toValue _ hn
  land x y := ⟨x.land y, land_toValue x y, toBits_land x y⟩
  land_comm x y := by rw [land_toValue, land_toValue, Fixed.land_comm]

/-- In eight bits with a sign, five moved up by seven places is the least value, and that moved down
by three is `-16`. -/
theorem shifts_int8 :
    let five : Fixed (.signed .w8) := ⟨5, by decide, by decide⟩
    let least : Fixed (.signed .w8) := ⟨-128, by decide, by decide⟩
    five.toValue.shl (.int 7) = .ok least.toValue ∧
      ∃ z : Fixed (.signed .w8), least.toValue.shr (.int 3) = .ok z.toValue ∧ z.val = -16 := by
  intro five least
  constructor
  · rw [(actsOnBits _).shl_eq]
    obtain ⟨z, hz, -, hval⟩ | ⟨-, hn, -⟩ :=
      (actsOnBits _).shl (2 ^ 36) five (Value.counts_int 7)
    · have hleast : least.val = z.val := (hval (-128)).mp ⟨by decide, by decide⟩
      rw [val_inj.mp hleast]
      exact hz
    · omega
  · obtain ⟨z, hz, hval, -⟩ := (actsOnBits _).shr least (Value.counts_int 3)
    exact ⟨z, hz, hval⟩

/-- In eight bits with a sign one is not moved up by `10 ^ 20` places, although all of them would be
dropped. -/
theorem one_shl_tooManyDigits :
    let x : Fixed (.signed .w8) := one _
    let n : Nat := 100000000000000000000
    x.toBits <<< n = 0 ∧ ¬∃ z : Fixed (.signed .w8), x.toValue.shl (.int n) = .ok z.toValue := by
  intro x n
  have hfault : x.toValue.shl (.int n) = .error .tooManyDigits := by
    rw [toValue, Value.shl, Value.shlWithin_eq (Rep.fixed_ne_unbounded _) x (Value.counts_int n),
      Value.shiftUp, if_neg (by decide), if_pos (by decide)]
    rfl
  refine ⟨BitVec.shiftLeft_eq_zero (by decide), ?_⟩
  rintro ⟨z, hz⟩
  cases hfault.symm.trans hz

end Fixed

end Aliquot
