import Aliquot.Failure
import Aliquot.Format
import Aliquot.TwosComplement

/-!
# Fixed-width integers

A `Fixed f` is an integer that the format `f` represents. Arithmetic is exact: a result outside the
format is a failure. Shifts and conjunction act on the bit pattern: a left shift drops what leaves
the width, a right shift keeps the sign.

Source: `FixedInt` in `bezout.numeric`.
-/

namespace Aliquot

/-- An integer between the bounds of the format `f`. -/
@[ext] structure Fixed (f : Format) where
  /-- The integer itself. -/
  val : Int
  min_le_val : f.min ≤ val
  val_le_max : val ≤ f.max
  deriving DecidableEq, Repr

namespace Fixed

variable {f : Format}

/-- The value for `k`; a failure when `k` is not representable. -/
def ofInt (f : Format) (k : Int) : Checked (Fixed f) :=
  if h : f.Represents k then .ok ⟨k, h.1, h.2⟩ else .error (.outOfRange k f.typeName)

/-- The number that the low bits of `k` stand for in the format: their numeral, less the weight of
the sign bit twice where that bit is set. -/
def lowBits (f : Format) (k : Int) : Int :=
  let word := TwosComplement.land k (twoPow f.bits - 1)
  if f.isSigned ∧ f.max < word then word - twoPow f.bits else word

/-- The low bits stand for a representable number. -/
theorem represents_lowBits (f : Format) (k : Int) : f.Represents (lowBits f k) := by
  have hp : (0 : Int) < twoPow f.bits := Int.natCast_pos.mpr (twoPow_pos f.bits)
  have hl := Int.emod_nonneg k (Int.ne_of_gt hp)
  have hu := Int.emod_lt_of_pos k hp
  simp only [lowBits, TwosComplement.land_ones]
  by_cases hs : f.isSigned
  · simp only [hs, true_and]
    have hb := f.eight_le_bits
    have he := twoPow_eq_two_mul (n := f.bits) (by omega)
    have hmax : f.max = twoPow (f.bits - 1) - 1 := if_pos hs
    rw [Format.represents_iff_of_isSigned hs]
    split <;> omega
  · rw [if_neg fun h ↦ hs h.1, Format.represents_iff_of_not_isSigned (Bool.eq_false_iff.mpr hs)]
    exact ⟨hl, hu⟩

/-- The value of the bit pattern that `k` has in the width of the format. Every pattern stands for a
representable number, so there is always one. -/
def wrap (f : Format) (k : Int) : Fixed f :=
  ⟨lowBits f k, (represents_lowBits f k).1, (represents_lowBits f k).2⟩

/-- Zero. -/
def zero (f : Format) : Fixed f := ⟨0, f.represents_zero.1, f.represents_zero.2⟩

/-- One. -/
def one (f : Format) : Fixed f := ⟨1, f.represents_one.1, f.represents_one.2⟩

/-- The sum. -/
def add (x y : Fixed f) : Checked (Fixed f) := ofInt f (x.val + y.val)

/-- The difference. -/
def sub (x y : Fixed f) : Checked (Fixed f) := ofInt f (x.val - y.val)

/-- The product. -/
def mul (x y : Fixed f) : Checked (Fixed f) := ofInt f (x.val * y.val)

/-- The product, or nothing when it is not representable. -/
def mul? (x y : Fixed f) : Option (Fixed f) :=
  if h : f.Represents (x.val * y.val) then some ⟨x.val * y.val, h.1, h.2⟩ else none

/-- The negated value. -/
def neg (x : Fixed f) : Checked (Fixed f) := ofInt f (-x.val)

/-- The absolute value. -/
def abs (x : Fixed f) : Checked (Fixed f) := ofInt f x.val.natAbs

/-- The quotient, rounded toward zero. -/
def quo (x y : Fixed f) : Checked (Fixed f) :=
  if y.val = 0 then .error .divisionByZero else ofInt f (x.val.tdiv y.val)

/-- The remainder of the quotient rounded toward zero; it has the sign of the dividend. -/
def rem (x y : Fixed f) : Checked (Fixed f) :=
  if y.val = 0 then .error .divisionByZero else ofInt f (x.val.tmod y.val)

/-- The conjunction of two representable integers is representable. -/
theorem represents_land {j k : Int} (hj : f.Represents j) (hk : f.Represents k) :
    f.Represents (TwosComplement.land j k) := by
  by_cases h : f.isSigned
  · rw [Format.represents_iff_of_isSigned h] at *
    exact TwosComplement.land_mem hj hk
  · rw [Format.represents_iff_of_not_isSigned (Bool.eq_false_iff.mpr h)] at *
    exact TwosComplement.land_mem_of_nonneg hj hk.1

/-- The value is representable. -/
theorem represents_val (x : Fixed f) : f.Represents x.val := ⟨x.min_le_val, x.val_le_max⟩

/-- The conjunction of two bit patterns. -/
def land (x y : Fixed f) : Fixed f :=
  have h := represents_land x.represents_val y.represents_val
  ⟨TwosComplement.land x.val y.val, h.1, h.2⟩

/-- The bit pattern moved `k` places up; what leaves the width is dropped. -/
def shl (x : Fixed f) (k : Nat) : Fixed f :=
  wrap f (if k < f.bits then x.val * twoPow k else 0)

/-- Division by a positive integer stays representable. -/
theorem represents_ediv {k : Int} {d : Nat} (hk : f.Represents k) (hd : 0 < d) :
    f.Represents (k / d) := by
  have h₀ := f.represents_zero
  have hd : (0 : Int) < d := by omega
  obtain ⟨hl, hu⟩ := hk
  constructor
  · rw [Int.le_ediv_iff_mul_le hd]
    have := Int.mul_le_mul_of_nonpos_left h₀.1 (show (1 : Int) ≤ d by omega)
    omega
  · by_cases hk : 0 ≤ k
    · exact Int.le_trans (Int.ediv_le_self d hk) hu
    · have := Int.ediv_neg_of_neg_of_pos (Int.not_le.mp hk) hd
      have := h₀.2
      omega

private theorem represents_shiftRight (x : Fixed f) (k : Nat) : f.Represents (x.val >>> k) := by
  rw [Int.shiftRight_eq_div_pow]
  exact represents_ediv x.represents_val (twoPow_pos k)

/-- The bit pattern moved `k` places down, filled up with the sign. -/
def shr (x : Fixed f) (k : Nat) : Fixed f :=
  ⟨x.val >>> k, (represents_shiftRight x k).1, (represents_shiftRight x k).2⟩

/-- The values are the same integer. -/
def eq (x y : Fixed f) : Bool := x.val == y.val

/-- The first value is the smaller integer. -/
def lt (x y : Fixed f) : Bool := decide (x.val < y.val)

end Fixed

end Aliquot
