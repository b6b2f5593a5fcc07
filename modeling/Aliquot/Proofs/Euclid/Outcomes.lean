import Aliquot.Proofs.Euclid.Overflow

/-!
# The outcomes of greatest common divisors and least common multiples

The loop of remainders only makes numbers between zero and the absolute values that it starts from,
so a type that has these absolute values has everything the loop computes. A least common multiple
needs the product as well; the quotient that it ends with lies between zero and the product.
-/

namespace Aliquot.Euclid

open CheckedInt

/-- The divisor of `a` and `b` that is not negative and that all their divisors divide. -/
structure IsGreatestCommonDivisor (a b g : Int) : Prop where
  nonneg : 0 ≤ g
  left : g ∣ a
  right : g ∣ b
  dvd : ∀ d, d ∣ a → d ∣ b → d ∣ g

/-- The multiple of `a` and `b` that is not negative and that divides all their multiples. -/
structure IsLeastCommonMultiple (a b l : Int) : Prop where
  nonneg : 0 ≤ l
  left : a ∣ l
  right : b ∣ l
  dvd : ∀ m, a ∣ m → b ∣ m → l ∣ m

section Integers

variable {a b : Int}

/-- The greatest common divisor of integers is one. -/
theorem isGreatestCommonDivisor_gcd (a b : Int) : IsGreatestCommonDivisor a b (a.gcd b) where
  nonneg := Int.natCast_nonneg _
  left := Int.gcd_dvd_left a b
  right := Int.gcd_dvd_right a b
  dvd _ ha hb := Int.dvd_coe_gcd ha hb

/-- The least common multiple of integers is one. -/
theorem isLeastCommonMultiple_lcm (a b : Int) : IsLeastCommonMultiple a b (a.lcm b) where
  nonneg := Int.natCast_nonneg _
  left := Int.dvd_lcm_left a b
  right := Int.dvd_lcm_right a b
  dvd _ ha hb := Int.coe_lcm_dvd ha hb

/-- The product is a multiple of the greatest common divisor. -/
theorem gcd_dvd_mul (a b : Int) : (a.gcd b : Int) ∣ a * b :=
  Dvd.dvd.mul_right (Int.gcd_dvd_left a b) b

/-- The product divided by the greatest common divisor has the sign of the product. -/
theorem sign_mul_tdiv_gcd (h : a ≠ 0 ∨ b ≠ 0) :
    ((a * b).tdiv (a.gcd b)).sign = (a * b).sign := by
  have hg : (0 : Int) < a.gcd b := Int.natCast_pos.mpr (Nat.pos_of_ne_zero (gcd_ne_zero h))
  have hprod : (a * b).tdiv (a.gcd b) * a.gcd b = a * b := Int.tdiv_mul_cancel (gcd_dvd_mul a b)
  calc ((a * b).tdiv (a.gcd b)).sign
      = ((a * b).tdiv (a.gcd b)).sign * (a.gcd b : Int).sign := by
        rw [Int.sign_eq_one_of_pos hg, mul_one]
    _ = (a * b).sign := by rw [← Int.sign_mul, hprod]

end Integers

section Runs

variable {α : Type} [CheckedInt α] {a b : α}

/-- A remainder of values that are not negative is held, as it does not exceed the dividend. -/
theorem rem_attains (ha : 0 ≤ toInt a) (hb : ¬isZero b = true) :
    Attains Reads (rem a b) ((toInt a).tmod (toInt b)) := by
  rw [isZero_iff] at hb
  have hrem := tmod_between (toInt a) (toInt b)
  exact Attains.rem rfl rfl hb (exists_ofInt_eq_ok (x := a) (by omega) (by omega))

/-- The loop of remainders ends on values that are not negative, by induction on its steps: each
remainder is held and takes the place of the smaller value. -/
theorem gcdLoop_attains (ha : 0 ≤ toInt a) (hb : 0 ≤ toInt b) :
    Attains Reads (gcdLoop a b) ((toInt a).gcd (toInt b)) := by
  induction a, b using gcdLoop.induct with
  | case1 a b h =>
    refine ⟨a, gcdLoop_of_isZero h, ?_⟩
    rw [Reads, isZero_iff.mp h, Int.gcd_zero_right, Int.natAbs_of_nonneg ha]
  | case2 a b h e he =>
    obtain ⟨r, hr, -⟩ := rem_attains ha h
    rw [he] at hr
    cases hr
  | case3 a b h r hr ih =>
    have hread := toInt_of_rem_eq_ok hr
    rw [gcdLoop_of_not_isZero h, hr, ← gcd_tmod, ← hread]
    exact ih hb (hread ▸ Int.tmod_nonneg _ ha)

/-- The greatest common divisor is found when the type holds both absolute values. -/
theorem gcd_attains (ha : Holds α (toInt a).natAbs) (hb : Holds α (toInt b).natAbs) :
    Attains Reads (gcd a b) ((toInt a).gcd (toInt b)) := by
  apply (Attains.abs rfl ha).bind
  intro x hx
  apply (Attains.abs rfl hb).bind
  intro y hy
  have h := gcdLoop_attains (a := x) (b := y) (hx ▸ Int.natCast_nonneg _)
    (hy ▸ Int.natCast_nonneg _)
  rwa [hx, hy] at h

/-- Without one of the absolute values the search for a greatest common divisor overflows. -/
theorem gcd_overflows (h : ¬(Holds α (toInt a).natAbs ∧ Holds α (toInt b).natAbs)) :
    FailsWith (gcd a b) .overflow := by
  have habs (x : α) (hx : ¬Holds α (toInt x).natAbs) : FailsWith (abs x) .overflow := by
    rw [CheckedInt.abs_eq]
    cases hk : (ofInt (toInt x).natAbs : Checked α) with
    | error e => exact failsWith_error.mpr (isOverflow_of_ofInt_eq_error hk)
    | ok y => exact absurd ⟨y, hk⟩ hx
  unfold gcd
  by_cases ha : Holds α (toInt a).natAbs
  · obtain ⟨x, hx, -⟩ := Attains.abs (x := a) rfl ha
    rw [hx]
    exact (habs b fun hb ↦ h ⟨ha, hb⟩).bind _
  · exact (habs a ha).bind _

/-- The product of two numbers that are not both zero is looked at before anything else is done with
them. -/
theorem lcm_of_ne_zero (h : toInt a ≠ 0 ∨ toInt b ≠ 0) :
    lcm a b = match mul? a b with
      | none => .error (.productOutOfRange (toInt a) (toInt b) (typeName α))
      | some product => gcd a b >>= quo product := by
  have hzeros : ¬(isZero a && isZero b) = true := by
    rw [Bool.and_eq_true, isZero_iff, isZero_iff]
    omega
  rw [lcm_eq]
  exact if_neg hzeros

/-- Two numbers that are not both zero overflow when the type does not hold their product. -/
theorem lcm_overflows_of_mul (h : toInt a ≠ 0 ∨ toInt b ≠ 0)
    (hm : ¬Holds α (toInt a * toInt b)) : FailsWith (lcm a b) .overflow := by
  rw [lcm_of_ne_zero h]
  obtain hnone | ⟨z, hz, hread⟩ := Reads.mul? (x := a) (y := b) rfl rfl
  · rw [hnone]
    exact failsWith_error.mpr rfl
  · exact absurd hread.holds hm

/-- Otherwise the outcome is decided by the greatest common divisor and the quotient. -/
theorem exists_lcm_eq_bind (h : toInt a ≠ 0 ∨ toInt b ≠ 0) (hm : Holds α (toInt a * toInt b)) :
    ∃ product : α, Reads product (toInt a * toInt b) ∧ lcm a b = gcd a b >>= quo product := by
  obtain ⟨product, hp, hread⟩ := Attains.mul (x := a) (y := b) rfl rfl hm
  refine ⟨product, hread, ?_⟩
  rw [lcm_of_ne_zero h, mul?_eq, hp]
  rfl

end Runs

section Outcomes

variable {r : Rep} {a b : r.Carrier}

/-- The search for a greatest common divisor ends unless a number is the least one of a fixed
width. -/
theorem gcd_attains_of_not_isFixedLeast (hs : r.isUnsigned = false)
    (h : ¬(r.IsFixedLeast (toInt a) ∨ r.IsFixedLeast (toInt b))) :
    Attains Reads (gcd a b) ((toInt a).gcd (toInt b)) := by
  rw [not_or, ← Rep.represents_natAbs_iff hs, ← Rep.represents_natAbs_iff hs, ← Rep.holds_iff,
    ← Rep.holds_iff] at h
  exact gcd_attains h.1 h.2

/-- The least number of a fixed width makes it overflow. -/
theorem gcd_overflows_of_isFixedLeast (hs : r.isUnsigned = false)
    (h : r.IsFixedLeast (toInt a) ∨ r.IsFixedLeast (toInt b)) : FailsWith (gcd a b) .overflow := by
  apply gcd_overflows
  rw [Rep.holds_iff, Rep.holds_iff, Rep.represents_natAbs_iff hs, Rep.represents_natAbs_iff hs,
    ← not_or, not_not]
  exact h

/-- A product that is not represented makes the search for a least common multiple overflow, and so
does the least number of a fixed width. -/
theorem lcm_overflows (hs : r.isUnsigned = false) (h : toInt a ≠ 0 ∨ toInt b ≠ 0)
    (hfail : ¬r.Represents (toInt a * toInt b) ∨ r.IsFixedLeast (toInt a) ∨
      r.IsFixedLeast (toInt b)) : FailsWith (lcm a b) .overflow := by
  by_cases hm : r.Represents (toInt a * toInt b)
  · obtain ⟨product, -, heq⟩ := exists_lcm_eq_bind h (Rep.holds_iff.mpr hm)
    rw [heq]
    exact (gcd_overflows_of_isFixedLeast hs (hfail.resolve_left (not_not.mpr hm))).bind _
  · exact lcm_overflows_of_mul h (mt Rep.holds_iff.mp hm)

/-- Otherwise the quotient by the greatest common divisor is found, as it lies between zero and the
product. -/
theorem lcm_attains_of_not_isFixedLeast (hs : r.isUnsigned = false)
    (h : toInt a ≠ 0 ∨ toInt b ≠ 0) (hm : r.Represents (toInt a * toInt b))
    (hleast : ¬(r.IsFixedLeast (toInt a) ∨ r.IsFixedLeast (toInt b))) :
    Attains Reads (lcm a b) ((toInt a * toInt b).tdiv ((toInt a).gcd (toInt b))) := by
  obtain ⟨product, hproduct, heq⟩ := exists_lcm_eq_bind h (Rep.holds_iff.mpr hm)
  have hq := Rep.represents_of_between hm
    (tdiv_between (k := (toInt a).gcd (toInt b)) _ (Int.natCast_nonneg _))
  rw [heq]
  apply (gcd_attains_of_not_isFixedLeast hs hleast).bind
  intro g hg
  exact Attains.quo hproduct hg (Int.natCast_ne_zero.mpr (gcd_ne_zero h)) (Rep.holds_iff.mpr hq)

/-- The extended algorithm ends unless a number is the least one of a fixed width. -/
theorem exists_xgcd_of_not_isFixedLeast (hs : r.isUnsigned = false)
    (h : ¬(r.IsFixedLeast (toInt a) ∨ r.IsFixedLeast (toInt b))) : ∃ row, xgcd a b = .ok row := by
  cases r with
  | unbounded =>
    obtain ⟨row, hrow, -⟩ := exists_xgcd a b
    exact ⟨row, hrow⟩
  | fixed f =>
    apply exists_xgcd_fixed (by simpa [Rep.isUnsigned] using hs)
    rintro (⟨ha, -⟩ | ⟨hb, -⟩)
    · exact h (.inl ⟨f, rfl, ha⟩)
    · exact h (.inr ⟨f, rfl, hb⟩)
  | signMagnitude w => exact exists_xgcd_signMagnitude a b

/-- The divisor that the extended algorithm finds is the other one up to its sign. -/
theorem natAbs_value_of_xgcd_eq_ok {α : Type} [CheckedInt α] {a b : α} {row : Row α}
    (h : xgcd a b = .ok row) : (toInt row.value).natAbs = (toInt a).gcd (toInt b) := by
  obtain ⟨ints, hints, hread⟩ := exists_reads_of_xgcd_eq_ok h
  rw [hread.value, natAbs_value_of_xgcd hints]

/-- For any type with a sign: the search for a greatest common divisor overflows on the least number
of a fixed width. It ends on all others, and what it finds is the absolute value of the divisor that
the extended algorithm finds. -/
theorem gcd_outcomes (hs : r.isUnsigned = false) (a b : r.Carrier) :
    (r.IsFixedLeast (toInt a) ∨ r.IsFixedLeast (toInt b) → FailsWith (gcd a b) .overflow) ∧
    (¬(r.IsFixedLeast (toInt a) ∨ r.IsFixedLeast (toInt b)) →
      ∃ g row, gcd a b = .ok g ∧ IsGreatestCommonDivisor (toInt a) (toInt b) (toInt g) ∧
        xgcd a b = .ok row ∧ abs row.value = .ok g) := by
  refine ⟨gcd_overflows_of_isFixedLeast hs, fun h ↦ ?_⟩
  obtain ⟨g, hg, hread⟩ := gcd_attains_of_not_isFixedLeast hs h
  obtain ⟨row, hrow⟩ := exists_xgcd_of_not_isFixedLeast hs h
  refine ⟨g, row, hg, hread ▸ isGreatestCommonDivisor_gcd _ _, hrow, ?_⟩
  rw [CheckedInt.abs_eq, natAbs_value_of_xgcd_eq_ok hrow, ← hread, ofInt_toInt]

/-- In eight bits `-128` overflows with 3, while `-126` and 84 have the greatest common divisor 42,
which the extended algorithm finds with one sign or the other. -/
theorem gcd_int8 :
    let r := Rep.fixed (.signed .w8)
    let least : r.Carrier := ⟨-128, by decide, by decide⟩
    let three : r.Carrier := ⟨3, by decide, by decide⟩
    let m : r.Carrier := ⟨-126, by decide, by decide⟩
    let n : r.Carrier := ⟨84, by decide, by decide⟩
    r.isUnsigned = false ∧ r.IsFixedLeast (toInt least) ∧ FailsWith (gcd least three) .overflow ∧
      ¬(r.IsFixedLeast (toInt m) ∨ r.IsFixedLeast (toInt n)) ∧
      ∃ g row, gcd m n = .ok g ∧ IsGreatestCommonDivisor (-126) 84 (toInt g) ∧
        xgcd m n = .ok row ∧ abs row.value = .ok g := by
  intro r least three m n
  have hleast : r.IsFixedLeast (toInt least) := Rep.isFixedLeast_fixed.mpr rfl
  have hmn : ¬(r.IsFixedLeast (toInt m) ∨ r.IsFixedLeast (toInt n)) := by
    rw [Rep.isFixedLeast_fixed, Rep.isFixedLeast_fixed]
    decide
  exact ⟨rfl, hleast, (gcd_outcomes (r := r) rfl least three).1 (.inl hleast), hmn,
    (gcd_outcomes (r := r) rfl m n).2 hmn⟩

/-- For any type with a sign: two zeros are refused. Other numbers overflow when the type does not
represent their product, or when one of them is the least one of a fixed width. All others have
their least common multiple, with the sign of the product. -/
theorem lcm_outcomes (hs : r.isUnsigned = false) (a b : r.Carrier) :
    (toInt a = 0 ∧ toInt b = 0 → FailsWith (lcm a b) .badArgument) ∧
    (¬(toInt a = 0 ∧ toInt b = 0) →
      (¬r.Represents (toInt a * toInt b) ∨ r.IsFixedLeast (toInt a) ∨ r.IsFixedLeast (toInt b) →
        FailsWith (lcm a b) .overflow) ∧
      (r.Represents (toInt a * toInt b) →
        ¬(r.IsFixedLeast (toInt a) ∨ r.IsFixedLeast (toInt b)) →
        ∃ g l, gcd a b = .ok g ∧ lcm a b = .ok l ∧
          toInt l * toInt g = toInt a * toInt b ∧
          IsLeastCommonMultiple (toInt a) (toInt b) (toInt l).natAbs ∧
          (toInt a = 0 ∨ toInt b = 0 → toInt l = 0) ∧
          (toInt l).sign = (toInt a * toInt b).sign)) := by
  refine ⟨fun ⟨ha, hb⟩ ↦ ?_, fun h ↦ ⟨fun hfail ↦ ?_, fun hm hleast ↦ ?_⟩⟩
  · rw [lcm_eq, if_pos (by rw [isZero_iff.mpr ha, isZero_iff.mpr hb]; rfl)]
    exact failsWith_error.mpr rfl
  · exact lcm_overflows hs (by omega) hfail
  · have h : toInt a ≠ 0 ∨ toInt b ≠ 0 := by omega
    obtain ⟨g, hg, hgread⟩ := gcd_attains_of_not_isFixedLeast hs hleast
    obtain ⟨l, hl, hread⟩ := lcm_attains_of_not_isFixedLeast hs h hm hleast
    have hlcm : IsLeastCommonMultiple (toInt a) (toInt b) (toInt l).natAbs := by
      rw [hread, natAbs_mul_tdiv_gcd]
      exact isLeastCommonMultiple_lcm _ _
    refine ⟨g, l, hg, hl, ?_, hlcm, fun hzero ↦ ?_, ?_⟩
    · rw [hread, hgread]
      exact Int.tdiv_mul_cancel (gcd_dvd_mul _ _)
    · rw [hread, mul_eq_zero.mpr hzero, Int.zero_tdiv]
    · rw [hread]
      exact sign_mul_tdiv_gcd h

/-- In eight bits two zeros are refused, 16 and `-12` overflow with their product, `-128` and 1 with
the absolute value of `-128`, and the least common multiple of 12 and `-8` is `-24`. -/
theorem lcm_int8 :
    let r := Rep.fixed (.signed .w8)
    let least : r.Carrier := ⟨-128, by decide, by decide⟩
    let sixteen : r.Carrier := ⟨16, by decide, by decide⟩
    let twelve : r.Carrier := ⟨12, by decide, by decide⟩
    let minusTwelve : r.Carrier := ⟨-12, by decide, by decide⟩
    let minusEight : r.Carrier := ⟨-8, by decide, by decide⟩
    r.isUnsigned = false ∧ FailsWith (lcm (zero : r.Carrier) zero) .badArgument ∧
      ¬r.Represents (16 * -12) ∧ FailsWith (lcm sixteen minusTwelve) .overflow ∧
      r.Represents (-128 * 1) ∧ FailsWith (lcm least one) .overflow ∧
      ∃ g l, gcd twelve minusEight = .ok g ∧ lcm twelve minusEight = .ok l ∧
        toInt l * toInt g = -96 ∧ IsLeastCommonMultiple 12 (-8) (toInt l).natAbs ∧
        (toInt l).sign = -1 := by
  intro r least sixteen twelve minusTwelve minusEight
  have hproduct : ¬r.Represents (16 * -12) :=
    (by decide : ¬Format.Represents (.signed .w8) (16 * -12))
  have hleast : r.Represents (-128 * 1) :=
    (by decide : Format.Represents (.signed .w8) (-128 * 1))
  have hrep : r.Represents (toInt twelve * toInt minusEight) :=
    (by decide : Format.Represents (.signed .w8) (12 * -8))
  have hne : ¬(r.IsFixedLeast (toInt twelve) ∨ r.IsFixedLeast (toInt minusEight)) := by
    rw [Rep.isFixedLeast_fixed, Rep.isFixedLeast_fixed]
    decide
  obtain ⟨hzeros, -⟩ := lcm_outcomes (r := r) rfl zero zero
  obtain ⟨-, hbig⟩ := lcm_outcomes (r := r) rfl sixteen minusTwelve
  obtain ⟨-, hmin⟩ := lcm_outcomes (r := r) rfl least one
  obtain ⟨-, hok⟩ := lcm_outcomes (r := r) rfl twelve minusEight
  obtain ⟨g, l, hg, hl, hmul, hlcm, -, hsign⟩ := (hok (by decide)).2 hrep hne
  exact ⟨rfl, hzeros ⟨rfl, rfl⟩, hproduct, (hbig (by decide)).1 (.inl hproduct), hleast,
    (hmin (by decide)).1 (.inr (.inl (Rep.isFixedLeast_fixed.mpr rfl))), g, l, hg, hl, hmul, hlcm,
    hsign⟩

end Outcomes

end Aliquot.Euclid
