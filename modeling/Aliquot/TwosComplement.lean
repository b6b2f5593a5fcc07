import Aliquot.Powers

/-!
# Integers as two's-complement words without end

A non-negative integer is followed by zeros without end, a negative one by ones. `bit` reads one
binary digit and `land` is the digitwise conjunction; `bit_land` ties the two together.

The runtime's `&` on integers is this conjunction.
-/

namespace Aliquot.TwosComplement

/-- The digit of weight `2 ^ i`. -/
def bit (k : Int) (i : Nat) : Bool :=
  match k with
  | .ofNat m => m.testBit i
  | .negSucc m => !m.testBit i

/-- Digitwise conjunction. -/
def land : Int → Int → Int
  | .ofNat m, .ofNat n => .ofNat (m &&& n)
  | .ofNat m, .negSucc n => .ofNat (m ^^^ (m &&& n))
  | .negSucc m, .ofNat n => .ofNat (n ^^^ (n &&& m))
  | .negSucc m, .negSucc n => .negSucc (m ||| n)

/-- A digit of the conjunction is set when it is set in both integers. -/
theorem bit_land (j k : Int) (i : Nat) : bit (land j k) i = (bit j i && bit k i) := by
  cases j <;> cases k <;>
    simp only [land, bit, Nat.testBit_and, Nat.testBit_xor, Nat.testBit_or, Bool.not_or]
  · next m n => cases m.testBit i <;> simp
  · next m n => cases n.testBit i <;> simp

/-- The conjunction does not depend on the order of its operands. -/
theorem land_comm (j k : Int) : land j k = land k j := by
  cases j <;> cases k <;> simp [land, Nat.and_comm, Nat.or_comm]

/-- On natural numbers the conjunction is the usual one. -/
@[simp] theorem land_natCast (m n : Nat) : land m n = ((m &&& n : Nat) : Int) := rfl

/-- The digits of a number that is not negative are those of its numeral. -/
theorem bit_eq_testBit {k : Int} (h : 0 ≤ k) (i : Nat) : bit k i = k.toNat.testBit i := by
  obtain ⟨m, rfl⟩ := Int.eq_ofNat_of_zero_le h
  rfl

/-- The remainder by the power `2 ^ n` keeps the digits below it. -/
theorem testBit_emod (k : Int) (n i : Nat) :
    (k % twoPow n).toNat.testBit i = (decide (i < n) && bit k i) := by
  have hp := twoPow_pos n
  cases k with
  | ofNat m => exact Nat.testBit_mod_two_pow m n i
  | negSucc m =>
    have hm : m % 2 ^ n < 2 ^ n := Nat.mod_lt m hp
    have he : (Int.negSucc m % twoPow n).toNat = 2 ^ n - (m % 2 ^ n + 1) := by
      rw [Int.negSucc_emod m (Int.natCast_pos.mpr hp)]
      change ((2 ^ n : Nat) - 1 - ((m % 2 ^ n : Nat) : Int)).toNat = _
      omega
    rw [he, Nat.testBit_two_pow_sub_succ hm, Nat.testBit_mod_two_pow, bit]
    cases decide (i < n) <;> simp

/-- The conjunction of two words of `n + 1` bits is such a word. -/
theorem land_mem {j k : Int} {n : Nat} (hj : -(twoPow n : Int) ≤ j ∧ j < twoPow n)
    (hk : -(twoPow n : Int) ≤ k ∧ k < twoPow n) :
    -(twoPow n : Int) ≤ land j k ∧ land j k < twoPow n := by
  cases j with
  | ofNat j =>
    have hj : j < twoPow n := Int.ofNat_lt.mp hj.2
    cases k with
    | ofNat k =>
      have : j &&& k < twoPow n := Nat.and_lt_two_pow j (Int.ofNat_lt.mp hk.2)
      simp only [land, Int.ofNat_eq_natCast]
      omega
    | negSucc k =>
      have hand : j &&& k < twoPow n := Nat.and_lt_two_pow j (by omega : k < twoPow n)
      have : j ^^^ (j &&& k) < twoPow n := Nat.xor_lt_two_pow hj hand
      simp only [land, Int.ofNat_eq_natCast]
      omega
  | negSucc j =>
    have hj : j < twoPow n := by omega
    cases k with
    | ofNat k =>
      have hand : k &&& j < twoPow n := Nat.and_lt_two_pow k hj
      have : k ^^^ (k &&& j) < twoPow n := Nat.xor_lt_two_pow (Int.ofNat_lt.mp hk.2) hand
      simp only [land, Int.ofNat_eq_natCast]
      omega
    | negSucc k =>
      have : j ||| k < twoPow n := Nat.or_lt_two_pow hj (by omega : k < twoPow n)
      simp only [land]
      omega

/-- The conjunction with a non-negative integer lies between zero and that integer's bound. -/
theorem land_mem_of_nonneg {j k : Int} {n : Nat} (hj : 0 ≤ j ∧ j < twoPow n) (hk : 0 ≤ k) :
    0 ≤ land j k ∧ land j k < twoPow n := by
  obtain ⟨j, rfl⟩ := Int.eq_ofNat_of_zero_le hj.1
  obtain ⟨k, rfl⟩ := Int.eq_ofNat_of_zero_le hk
  have : k &&& j < twoPow n := Nat.and_lt_two_pow k (Int.ofNat_lt.mp hj.2)
  rw [land_comm, land_natCast]
  omega

/-- The conjunction with an integer that is not negative is not negative. -/
theorem land_nonneg {j k : Int} (hk : 0 ≤ k) : 0 ≤ land j k := by
  obtain ⟨n, rfl⟩ := Int.eq_ofNat_of_zero_le hk
  cases j <;> exact Int.natCast_nonneg _

/-- The conjunction with `n` ones is the remainder by the power `2 ^ n`. -/
theorem land_ones (k : Int) (n : Nat) : land k (twoPow n - 1) = k % twoPow n := by
  have hp := twoPow_pos n
  have hones : bit (twoPow n - 1) = fun i ↦ decide (i < n) := by
    funext i
    rw [bit_eq_testBit (by omega), show ((twoPow n : Int) - 1).toNat = 2 ^ n - 1 by
      change ((2 ^ n : Nat) - 1 : Int).toNat = _
      omega]
    exact Nat.testBit_two_pow_sub_one n i
  have hland : 0 ≤ land k (twoPow n - 1) := land_nonneg (by omega)
  have hmod : 0 ≤ k % twoPow n := Int.emod_nonneg k (by omega)
  -- two numbers that are not negative are equal when their digits are
  have hdigits : (land k (twoPow n - 1)).toNat = (k % twoPow n).toNat := by
    apply Nat.eq_of_testBit_eq
    intro i
    rw [← bit_eq_testBit hland, bit_land, hones, testBit_emod, Bool.and_comm]
  omega

end Aliquot.TwosComplement
