import Aliquot.Powers

/-!
# Formats of fixed-width integers

A `Format` fixes how many bits a number has and whether one of them is a sign. The representable
numbers form an interval, from `Format.min` to `Format.max`.

Source: `BITS`, `SIGNED`, `MIN` and `MAX` of `FixedInt` and its subclasses in `bezout.numeric`.
-/

namespace Aliquot

/-- The machine widths. -/
inductive Width where
  | w8 | w16 | w32 | w64 | w128
  deriving DecidableEq, Repr

/-- The number of bits of a width. -/
def Width.bits : Width → Nat
  | w8 => 8
  | w16 => 16
  | w32 => 32
  | w64 => 64
  | w128 => 128

/-- The formats of fixed-width integers. -/
inductive Format where
  /-- The default format, 64 bits with a sign. It accepts values of every other format as the
  second operand. -/
  | word
  /-- Two's complement. -/
  | signed (width : Width)
  /-- Plain binary. -/
  | unsigned (width : Width)
  deriving DecidableEq, Repr

namespace Format

/-- The number of bits, the sign bit included. -/
def bits : Format → Nat
  | word => 64
  | signed w | unsigned w => w.bits

/-- Whether the format holds negative numbers. -/
def isSigned : Format → Bool
  | unsigned _ => false
  | _ => true

/-- The least representable number. -/
def min (f : Format) : Int :=
  if f.isSigned then -twoPow (f.bits - 1) else 0

/-- The greatest representable number. -/
def max (f : Format) : Int :=
  if f.isSigned then twoPow (f.bits - 1) - 1 else twoPow f.bits - 1

/-- The name of the type of numbers of this format. -/
def typeName : Format → String
  | word => "FixedInt"
  | signed w => s!"Int{w.bits}"
  | unsigned w => s!"UInt{w.bits}"

/-- An integer is representable when it lies between the two bounds. -/
def Represents (f : Format) (k : Int) : Prop := f.min ≤ k ∧ k ≤ f.max

instance (f : Format) (k : Int) : Decidable (f.Represents k) :=
  inferInstanceAs (Decidable (_ ∧ _))

/-- Every format has at least eight bits. -/
theorem eight_le_bits (f : Format) : 8 ≤ f.bits := by
  cases f with
  | word => decide
  | signed w => cases w <;> decide
  | unsigned w => cases w <;> decide

/-- No format has more bits than the widest machine width. -/
theorem bits_le (f : Format) : f.bits ≤ 128 := by
  cases f with
  | word => decide
  | signed w => cases w <;> decide
  | unsigned w => cases w <;> decide

/-- Zero is representable in every format. -/
theorem represents_zero (f : Format) : f.Represents 0 := by
  cases f with
  | word => decide
  | signed w => cases w <;> decide
  | unsigned w => cases w <;> decide

/-- One is representable in every format. -/
theorem represents_one (f : Format) : f.Represents 1 := by
  cases f with
  | word => decide
  | signed w => cases w <;> decide
  | unsigned w => cases w <;> decide

/-- Two does not exceed the greatest number of any format. -/
theorem two_le_max (f : Format) : 2 ≤ f.max := by
  cases f with
  | word => decide
  | signed w => cases w <;> decide
  | unsigned w => cases w <;> decide

/-- A signed format reaches one further below zero than above it. -/
theorem min_eq_of_isSigned {f : Format} (h : f.isSigned) : f.min = -f.max - 1 := by
  simp only [min, max, h, ↓reduceIte]
  omega

/-- A signed format represents what fits beside a sign bit. -/
theorem represents_iff_of_isSigned {f : Format} (h : f.isSigned) {k : Int} :
    f.Represents k ↔ -(twoPow (f.bits - 1) : Int) ≤ k ∧ k < twoPow (f.bits - 1) := by
  simp only [Represents, min, max, h, ↓reduceIte]
  omega

/-- An unsigned format represents what fits in its bits. -/
theorem represents_iff_of_not_isSigned {f : Format} (h : f.isSigned = false) {k : Int} :
    f.Represents k ↔ 0 ≤ k ∧ k < twoPow f.bits := by
  simp only [Represents, min, max, h, Bool.false_eq_true, ↓reduceIte]
  omega

/-- The digits of a representable number, its sign aside, fit in the bits of the format. -/
theorem natAbs_lt_twoPow_bits {f : Format} {k : Int} (h : f.Represents k) :
    k.natAbs < twoPow f.bits := by
  by_cases hs : f.isSigned
  · have hb := f.eight_le_bits
    have he := twoPow_eq_two_mul (n := f.bits) (by omega)
    have hp := twoPow_pos (f.bits - 1)
    rw [represents_iff_of_isSigned hs] at h
    omega
  · rw [represents_iff_of_not_isSigned (Bool.eq_false_iff.mpr hs)] at h
    omega

/-- No two representable numbers have the same bit pattern. -/
theorem eq_of_emod_eq {f : Format} {j k : Int} (hj : f.Represents j) (hk : f.Represents k)
    (h : j % twoPow f.bits = k % twoPow f.bits) : j = k := by
  have hdvd : (twoPow f.bits : Int) ∣ j - k :=
    Int.dvd_of_emod_eq_zero (Int.emod_eq_emod_iff_emod_sub_eq_zero.mp h)
  have hlt : (j - k).natAbs < (twoPow f.bits : Int).natAbs := by
    by_cases hs : f.isSigned
    · have hb := f.eight_le_bits
      have he := twoPow_eq_two_mul (n := f.bits) (by omega)
      rw [represents_iff_of_isSigned hs] at hj hk
      omega
    · rw [represents_iff_of_not_isSigned (Bool.eq_false_iff.mpr hs)] at hj hk
      omega
  have := Int.eq_zero_of_dvd_of_natAbs_lt_natAbs hdvd hlt
  omega

/-- An unsigned format starts at zero. -/
@[simp] theorem min_unsigned (w : Width) : (unsigned w).min = 0 := rfl

end Format

end Aliquot
