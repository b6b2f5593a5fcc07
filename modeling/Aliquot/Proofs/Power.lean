import Aliquot.Power
import Aliquot.Proofs.BitScan
import Aliquot.Proofs.Report
import Aliquot.Proofs.Unbounded
import Mathlib.Data.Int.ModEq
import Mathlib.Data.Nat.Bitwise
import Mathlib.Tactic.Ring

/-!
# Exactness of powers

On unbounded integers the loop holds the truncating remainder of the power whose exponent has the
digits read so far.
-/

namespace Aliquot

open CheckedInt
open Text (isLong)

/-- A reduced product of integers is the remainder of the product. -/
theorem mulMod_int {m : Int} (hm : m ≠ 0) (a b : Int) : mulMod a b m = .ok ((a * b).tmod m) :=
  rem_int hm

namespace powMod

section Masks

variable {α : Type} [CheckedInt α] {x n m mask result : α}

/-- The masks that the loop comes to for the exponent `n`. -/
inductive Reached (n : α) : α → Prop where
  | top : Reached n (BitScan.topBit n)
  | down {mask : α} (h : Reached n mask) : Reached n (shr mask 1)

/-- They are not negative. -/
theorem Reached.nonneg (h : Reached n mask) : 0 ≤ toInt mask := by
  induction h with
  | top =>
    rcases Int.lt_or_le 0 (toInt n) with hn | hn
    · obtain ⟨k, hk⟩ := Int.eq_ofNat_of_zero_le (Int.le_of_lt hn)
      rw [BitScan.toInt_topBit hk (by omega)]
      exact Int.natCast_nonneg _
    · rw [BitScan.toInt_topBit_of_nonpos hn]
  | down _ ih =>
    rw [toInt_shr 1 ih]
    exact Int.ediv_nonneg ih (Int.natCast_nonneg _)

/-- The digits are used up just when the mask is zero. -/
theorem Reached.le_zero_eq (h : Reached n mask) : le mask zero = isZero mask := by
  have := h.nonneg
  rw [Bool.eq_iff_iff, le_iff, isZero_iff, toInt_zero]
  omega

/-- So the loop goes on as long as the mask is not zero. -/
theorem Reached.loop_eq (h : Reached n mask) :
    loop x n m mask result =
      if isZero mask then .ok result
      else mulMod result result m >>= fun square ↦
        (if isZero (land n mask) then .ok square else mulMod square x m) >>=
          loop x n m (shr mask 1) := by
  rw [← h.le_zero_eq]
  split
  · next hle => exact loop_of_le hle
  · next hle => exact loop_of_not_le hle

end Masks

variable {x m r : Int}

/-- A mask of one bit finds that digit of the exponent. -/
theorem isZero_land_twoPow (n j : Nat) :
    isZero (land (n : Int) (twoPow j : Int)) = !n.testBit j := by
  have h : land (n : Int) (twoPow j : Int) = ((n.testBit j).toNat * 2 ^ j : Nat) := by
    rw [← Nat.and_two_pow]
    rfl
  rw [Bool.eq_iff_iff, isZero_int, h]
  cases n.testBit j <;> simp

/-- A mask of one bit moves down to the next digit. -/
theorem shr_twoPow (j : Nat) : shr (twoPow (j + 1) : Int) 1 = (twoPow j : Int) := by
  have h : shr (twoPow (j + 1) : Int) 1 = (twoPow (j + 1) : Int) / twoPow 1 :=
    toInt_shr (x := (twoPow (j + 1) : Int)) 1 (Int.natCast_nonneg _)
  rw [h, Nat.add_comm, twoPow_add, Int.natCast_mul]
  exact Int.mul_ediv_cancel_left _ (by decide)

/-- A further digit doubles the exponent, and a set digit adds one. -/
theorem pow_div_twoPow (x : Int) (n j : Nat) :
    x ^ (n / twoPow j) =
      x ^ (n / twoPow (j + 1)) * x ^ (n / twoPow (j + 1)) * if n.testBit j then x else 1 := by
  have hdiv : n / twoPow (j + 1) = n / twoPow j / 2 := by
    rw [twoPow_succ, Nat.mul_comm, Nat.div_div_eq_div_mul]
  have hbit : n.testBit j = decide (n / twoPow j % 2 = 1) := Nat.testBit_eq_decide_div_mod_eq
  have hx : x ^ (n / twoPow j % 2) = if n.testBit j then x else 1 := by
    rw [hbit]
    rcases Nat.mod_two_eq_zero_or_one (n / twoPow j) with h | h <;> simp [h]
  rw [← hx, hdiv, ← pow_add, ← pow_add]
  congr 1
  omega

/-- The loop has a digit left. -/
theorem not_le_twoPow (j : Nat) : ¬le (twoPow j : Int) zero = true := by
  have hp := twoPow_pos j
  rw [le_iff, toInt_zero]
  change ¬(twoPow j : Int) ≤ 0
  omega

/-- A round of the loop makes the remainder of the power with one more digit of the exponent. -/
theorem loop_step (hm : m ≠ 0) {n j : Nat} (hr : r.tmod m = (x ^ (n / twoPow (j + 1))).tmod m) :
    loop x n m (twoPow j) r =
      loop x n m (shr (twoPow j : Int) 1) ((x ^ (n / twoPow j)).tmod m) := by
  have hsquare : (r * r).tmod m =
      (x ^ (n / twoPow (j + 1)) * x ^ (n / twoPow (j + 1))).tmod m := by
    rw [Int.mul_tmod, hr, ← Int.mul_tmod]
  rw [loop_of_not_le (not_le_twoPow j), mulMod_int hm, isZero_land_twoPow, hsquare,
    pow_div_twoPow x n j]
  generalize x ^ (n / twoPow (j + 1)) = p
  cases n.testBit j with
  | false =>
    simp only [bind, Except.bind, Bool.not_false, if_true, Bool.false_eq_true, if_false, mul_one]
  | true =>
    simp only [bind, Except.bind, Bool.not_true, Bool.false_eq_true, if_false, if_true,
      mulMod_int hm]
    rw [Int.mul_tmod, Int.tmod_tmod, ← Int.mul_tmod]

/-- The loop ends with the remainder of the whole power. By induction on the digits left. -/
theorem loop_int (hm : m ≠ 0) {n j : Nat} (hr : r.tmod m = (x ^ (n / twoPow (j + 1))).tmod m) :
    loop x n m (twoPow j) r = .ok ((x ^ n).tmod m) := by
  induction j generalizing r with
  | zero =>
    rw [loop_step hm hr, twoPow_zero, Nat.div_one]
    exact loop_of_le rfl
  | succ j ih =>
    rw [loop_step hm hr, shr_twoPow]
    exact ih (Int.tmod_tmod ..)

end powMod

variable {m : Int}

/-- The power zero is one for every modulus. -/
theorem powMod_zero (x m : Int) : powMod x 0 m = .ok 1 := rfl

/-- The digits of an exponent that is not zero are read from its highest one down. -/
theorem powMod_of_ne_zero (x m : Int) {n : Nat} (hn : n ≠ 0) :
    powMod x n m = powMod.loop (x : Int) n m (twoPow n.log2) one := by
  have hneg : ¬isNeg (n : Int) = true := by
    rw [isNeg_int]
    omega
  have hzero : ¬isZero (n : Int) = true := by
    rw [isZero_int]
    omega
  have htop : BitScan.topBit (n : Int) = twoPow n.log2 :=
    BitScan.toInt_topBit (n := (n : Int)) rfl hn
  rw [powMod, if_neg hneg, if_neg hzero, htop]

/-- A power is the truncating remainder of the whole power. -/
theorem powMod_int (hm : m ≠ 0) (x : Int) {n : Nat} (hn : n ≠ 0) :
    powMod x n m = .ok ((x ^ n).tmod m) := by
  -- above the highest digit nothing is read, so the loop starts with the power zero
  have hstart : n / twoPow (n.log2 + 1) = 0 :=
    Nat.div_eq_of_lt Nat.lt_log2_self
  rw [powMod_of_ne_zero x m hn]
  apply powMod.loop_int hm
  rw [hstart, pow_zero]
  rfl

/-- What a division by `m` that is rounded toward zero leaves of `p`. -/
structure IsTruncatedRemainder (k p m : Int) : Prop where
  modEq : k ≡ p [ZMOD m]
  natAbs_lt : k.natAbs < m.natAbs
  sign_eq : k ≠ 0 → k.sign = p.sign

/-- The truncating remainder is such a number. -/
theorem isTruncatedRemainder_tmod (hm : m ≠ 0) (p : Int) :
    IsTruncatedRemainder (p.tmod m) p m where
  modEq := Int.modEq_iff_dvd.mpr Int.dvd_self_sub_tmod
  natAbs_lt := natAbs_tmod_lt hm p
  sign_eq hz := by
    rcases tmod_between p m with ⟨hk, hp⟩ | ⟨hp, hk⟩
    · rw [Int.sign_eq_one_of_pos (by omega), Int.sign_eq_one_of_pos (by omega)]
    · rw [Int.sign_eq_neg_one_of_neg (by omega), Int.sign_eq_neg_one_of_neg (by omega)]

/-- A power is congruent to the whole power. -/
theorem exists_powMod (hm : m ≠ 0) (x : Int) (n : Nat) :
    ∃ k, powMod x n m = .ok k ∧ k ≡ x ^ n [ZMOD m] := by
  by_cases hn : n = 0
  · refine ⟨1, ?_, ?_⟩
    · rw [hn]
      exact powMod_zero x m
    · rw [hn, pow_zero]
  · exact ⟨_, powMod_int hm x hn, (isTruncatedRemainder_tmod hm _).modEq⟩

/-- A negative exponent is refused, and named. -/
theorem powMod_failsFor_badArgument {n : Int} (hn : n < 0) (x m : Int) :
    FailsFor (powMod x n m) .badArgument (isLong n) := by
  have hrefused : powMod x n m = .error (.negativeExponent n) := if_pos (isNeg_int.mpr hn)
  rw [hrefused]
  exact ⟨_, rfl, rfl, by simp [Failure.mentionsLong, Failure.integers]⟩

/-- The first product of a power is divided by the modulus, so it cannot be zero. -/
theorem powMod_divisionByZero (x : Int) {n : Nat} (hn : n ≠ 0) :
    powMod x n 0 = .error .divisionByZero := by
  rw [powMod_of_ne_zero x 0 hn, powMod.loop_of_not_le (powMod.not_le_twoPow _)]
  rfl

/-- What a power reports: a negative exponent that is written is an argument that is refused, and
one that is too long to be written has no text. Modulo zero a positive exponent divides by zero. -/
theorem powMod_reports_iff (x n m : Int) {kind : FaultKind} :
    Reports (powMod x n m) kind ↔
      (kind = Category.badArgument.reportKind (isLong n) ∧ n < 0) ∨
      (kind = .divisionByZero ∧ 0 < n ∧ m = 0) := by
  rcases lt_trichotomy n 0 with hn | rfl | hn
  · rw [(powMod_failsFor_badArgument hn x m).reports_iff]
    simp [hn, hn.not_gt]
  · rw [powMod_zero]
    exact iff_of_false not_reports_ok (by simp)
  · by_cases hm : m = 0
    · have hreports : Reports (powMod x n m) kind ↔ .divisionByZero = kind := by
        lift n to Nat using hn.le
        rw [hm, powMod_divisionByZero x (by omega)]
        exact stopsAs_error
      rw [hreports, eq_comm]
      simp [hn, hn.not_gt, hm]
    · lift n to Nat using hn.le
      rw [powMod_int hm x (by omega)]
      exact iff_of_false not_reports_ok (by simp [hm])

/-- A power is refused for a negative exponent, one for the exponent zero and otherwise the
truncating remainder of the whole power, which is the residue when the modulus is positive and the
whole power is not negative. The refusal of an exponent that is too long to be written is reported
as the fault to write it. -/
theorem powMod_is_truncated_power (x n m : Int) :
    (Reports (powMod x n m) (.failure .badArgument) ↔ n < 0 ∧ ¬isLong n) ∧
    (Reports (powMod x n m) .value ↔ n < 0 ∧ isLong n) ∧
    (n = 0 → powMod x n m = .ok 1) ∧
    (0 < n → m = 0 → powMod x n m = .error .divisionByZero) ∧
    (0 < n → m ≠ 0 → ∃ k, powMod x n m = .ok k ∧ rem (x ^ n.toNat) m = .ok k ∧
      IsTruncatedRemainder k (x ^ n.toNat) m ∧
      (0 < m → 0 ≤ x ^ n.toNat → k = x ^ n.toNat % m)) := by
  refine ⟨?_, ?_, ?_, ?_, fun hn hm ↦ ?_⟩
  · rw [powMod_reports_iff, Category.failure_eq_reportKind_iff]
    simp [and_comm]
  · rw [powMod_reports_iff, Category.value_eq_reportKind_iff]
    simp [and_comm]
  · rintro rfl
    exact powMod_zero x m
  · rintro hn rfl
    lift n to Nat using hn.le
    exact powMod_divisionByZero x (by omega)
  · lift n to Nat using hn.le
    rw [Int.toNat_natCast]
    exact ⟨_, powMod_int hm x (by omega), rem_int hm, isTruncatedRemainder_tmod hm _,
      fun _ hp ↦ Int.tmod_eq_emod_of_nonneg hp⟩

/-- Modulo five the third power of `-7` is `-3`, that of seven is three; an exponent below zero is
refused, and modulo zero there is no power but the power zero. -/
theorem powMod_three_of_seven :
    powMod (-7 : Int) 3 5 = .ok (-3) ∧ powMod (7 : Int) 3 5 = .ok (7 ^ 3 % 5) ∧
      Reports (powMod (7 : Int) (-1) 5) (.failure .badArgument) ∧
      powMod (7 : Int) 0 0 = .ok 1 ∧ powMod (7 : Int) 3 0 = .error .divisionByZero := by
  obtain ⟨-, -, -, -, hminus⟩ := powMod_is_truncated_power (-7) 3 5
  obtain ⟨-, -, -, -, hplus⟩ := powMod_is_truncated_power 7 3 5
  obtain ⟨hbad, -⟩ := powMod_is_truncated_power 7 (-1) 5
  obtain ⟨-, -, hone, -⟩ := powMod_is_truncated_power 7 0 0
  obtain ⟨-, -, -, hzero, -⟩ := powMod_is_truncated_power 7 3 0
  obtain ⟨k, hk, hrem, -⟩ := hminus (by decide) (by decide)
  have hk' : (.ok (-3) : Checked Int) = .ok k := hrem
  obtain ⟨l, hl, -, -, hres⟩ := hplus (by decide) (by decide)
  refine ⟨hk.trans hk'.symm, ?_, hbad.mpr ⟨by decide, by simp⟩, hone rfl, hzero (by decide) rfl⟩
  rw [hl, hres (by decide) (by decide)]
  rfl

/-- An exponent below zero is refused, and for the greatest one that is too long to be written
something else is reported. -/
theorem powMod_minus_long :
    let n : Int := -tenPow Text.digitLimit
    n < 0 ∧ Reports (powMod 2 n 7) .value ∧
      ¬Reports (powMod 2 n 7) (.failure .badArgument) := by
  have hlong : isLong (-tenPow Text.digitLimit) = true :=
    (Text.isLong_neg _).trans Text.isLong_tenPow
  have hn : -(tenPow Text.digitLimit : Int) < 0 :=
    Int.neg_neg_of_pos (Int.natCast_pos.mpr (tenPow_pos _))
  -- the power itself stays out of the argument
  generalize -(tenPow Text.digitLimit : Int) = n at hlong hn ⊢
  refine ⟨hn, ?_, ?_⟩
  · rw [powMod_reports_iff, Category.value_eq_reportKind_iff]
    exact .inl ⟨hlong, hn⟩
  · rw [powMod_reports_iff, Category.failure_eq_reportKind_iff]
    simp [hlong]

end Aliquot
