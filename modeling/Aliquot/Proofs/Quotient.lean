import Aliquot.Proofs.Dispatch
import Aliquot.Proofs.Report.Bounded
import Aliquot.Proofs.SignMagnitude

/-!
# Division toward zero

Unbounded integers are divided by way of their absolute values, fixed widths as integers with a test
of the range, and signed magnitudes by their parts. It is one law for all of them: quotient and
remainder are the two integers that belong to a division rounded toward zero. No remainder leaves
its type, and only one quotient of a type with a sign does.
-/

namespace Aliquot

open CheckedInt

/-- The parts of a division of `a` by `b` that is rounded toward zero. -/
structure IsTruncatedDivision (a b q s : Int) : Prop where
  eq : a = b * q + s
  natAbs_lt : s.natAbs < b.natAbs
  sign_eq : s = 0 ∨ s.sign = a.sign

section Integers

variable {a b q s : Int}

/-- The quotient and the remainder of the integers are such parts. -/
theorem isTruncatedDivision_tdiv (hb : b ≠ 0) (a : Int) :
    IsTruncatedDivision a b (a.tdiv b) (a.tmod b) where
  eq := (Int.mul_tdiv_add_tmod a b).symm
  natAbs_lt := natAbs_tmod_lt hb a
  sign_eq := by
    by_cases hdvd : b ∣ a
    · exact .inl (Int.tmod_eq_zero_of_dvd hdvd)
    · exact .inr (by rw [Int.sign_tmod, if_neg hdvd])

/-- There are no other ones. -/
theorem IsTruncatedDivision.eq_tdiv_tmod (h : IsTruncatedDivision a b q s) :
    q = a.tdiv b ∧ s = a.tmod b := by
  have hlt := h.natAbs_lt
  have hb : b ≠ 0 := by
    rintro rfl
    exact Nat.not_lt_zero _ hlt
  have hsum : s + b * q = a := by rw [Int.add_comm, ← h.eq]
  rcases Int.le_total 0 a with ha | ha
  · have hs : 0 ≤ s := by
      rcases h.sign_eq with rfl | hsign
      · exact Int.le_refl 0
      · exact Int.sign_nonneg_iff.mp (hsign ▸ Int.sign_nonneg_iff.mpr ha)
    exact ((Int.tdiv_tmod_unique ha hb).mpr ⟨hsum, hs, by omega⟩).imp Eq.symm Eq.symm
  · have hs : s ≤ 0 := by
      rcases h.sign_eq with rfl | hsign
      · exact Int.le_refl 0
      · exact Int.sign_nonpos_iff.mp (hsign ▸ Int.sign_nonpos_iff.mpr ha)
    exact ((Int.tdiv_tmod_unique' ha hb).mpr ⟨hsum, by omega, hs⟩).imp Eq.symm Eq.symm

/-- A quotient is that of the absolute values, negated when just one of the integers is negative. -/
theorem tdiv_eq_ediv_natAbs (a b : Int) :
    a.tdiv b =
      if (decide (a < 0) != decide (b < 0)) = true then -((a.natAbs : Int) / b.natAbs)
      else (a.natAbs : Int) / b.natAbs := by
  rw [← Int.tdiv_eq_ediv_of_nonneg (Int.natCast_nonneg a.natAbs)]
  by_cases ha : a < 0
  · have habs : (a.natAbs : Int) = -a := Int.ofNat_natAbs_of_nonpos ha.le
    by_cases hb : b < 0
    · have hbbs : (b.natAbs : Int) = -b := Int.ofNat_natAbs_of_nonpos hb.le
      simp [ha, hb, habs, hbbs, Int.neg_tdiv, Int.tdiv_neg]
    · have hbbs : (b.natAbs : Int) = b := Int.natAbs_of_nonneg (Int.not_lt.mp hb)
      simp [ha, hb, habs, hbbs, Int.neg_tdiv]
  · have habs : (a.natAbs : Int) = a := Int.natAbs_of_nonneg (Int.not_lt.mp ha)
    by_cases hb : b < 0
    · have hbbs : (b.natAbs : Int) = -b := Int.ofNat_natAbs_of_nonpos hb.le
      simp [ha, hb, habs, hbbs, Int.tdiv_neg]
    · have hbbs : (b.natAbs : Int) = b := Int.natAbs_of_nonneg (Int.not_lt.mp hb)
      simp [ha, hb, habs, hbbs]

end Integers

namespace Rep

variable {r : Rep}

/-- The least integer of a fixed width with a sign is divided by minus one. -/
def NegatesLeast (r : Rep) (a b : Int) : Prop :=
  ∃ f, r = .fixed f ∧ f.isSigned = true ∧ a = f.min ∧ b = -1

/-- No remainder leaves the type of the dividend. -/
theorem represents_tmod (x : r.Carrier) (b : Int) : r.Represents ((toInt x).tmod b) :=
  represents_of_between (represents_toInt x) (tmod_between ..)

/-- A fixed width with a sign has every quotient but that of its least integer by minus one. -/
theorem represents_tdiv_iff_of_isSigned {f : Format} (hf : f.isSigned = true) {a b : Int}
    (ha : f.Represents a) (hb : b ≠ 0) :
    f.Represents (a.tdiv b) ↔ ¬(a = f.min ∧ b = -1) := by
  have hmin := Format.min_eq_of_isSigned hf
  obtain ⟨hl, hu⟩ : f.min ≤ a ∧ a ≤ f.max := ha
  rcases Int.lt_trichotomy b (-1) with hlt | rfl | hgt
  · -- the quotient is at most half as large as the dividend
    have hhalf : (a.tdiv b).natAbs ≤ a.natAbs / 2 := by
      rw [Int.natAbs_tdiv]
      exact Nat.div_le_div_left (by omega) (by decide)
    exact iff_of_true ⟨by omega, by omega⟩ (by omega)
  · rw [Int.tdiv_neg, Int.tdiv_one, Format.Represents]
    omega
  · have hbetween := tdiv_between a (show 0 ≤ b by omega)
    have hzero := f.represents_zero.1
    have hzero' := f.represents_zero.2
    exact iff_of_true ⟨by omega, by omega⟩ (by omega)

/-- The only quotient that leaves the type of its numbers is that of the least integer of a fixed
width with a sign by minus one. -/
theorem represents_tdiv_iff (x y : r.Carrier) (hy : toInt y ≠ 0) :
    r.Represents ((toInt x).tdiv (toInt y)) ↔ ¬r.NegatesLeast (toInt x) (toInt y) := by
  cases r with
  | unbounded =>
    refine iff_of_true trivial ?_
    rintro ⟨f, hf, -⟩
    cases hf
  | signMagnitude w =>
    refine iff_of_true (SignMagnitude.represents_of_natAbs_le x ?_) ?_
    · exact Int.natAbs_tdiv_le_natAbs ..
    · rintro ⟨f, hf, -⟩
      cases hf
  | fixed f =>
    by_cases hf : f.isSigned = true
    · have hneg : (fixed f).NegatesLeast (toInt x) (toInt y) ↔ toInt x = f.min ∧ toInt y = -1 := by
        constructor
        · rintro ⟨g, hg, -, hx, hy⟩
          cases hg
          exact ⟨hx, hy⟩
        · exact fun h ↦ ⟨f, rfl, hf, h⟩
      rw [hneg]
      exact represents_tdiv_iff_of_isSigned hf (represents_toInt x) hy
    · have hy₀ : 0 ≤ toInt y :=
        ((Format.represents_iff_of_not_isSigned (by simpa using hf)).mp (represents_toInt y)).1
      refine iff_of_true (represents_of_between (represents_toInt x) (tdiv_between _ hy₀)) ?_
      rintro ⟨g, hg, hsigned, -⟩
      cases hg
      exact hf hsigned

end Rep

namespace Value

variable {r : Rep}

/-- Unbounded integers are multiplied. -/
theorem mul_int (j k : Int) : mul (int j) (int k) = .ok (int (j * k)) :=
  arithmetic_self (r := .unbounded) "*" .mul j k

/-- Unbounded integers are subtracted. -/
theorem sub_int (j k : Int) : sub (int j) (int k) = .ok (int (j - k)) :=
  arithmetic_self (r := .unbounded) "-" .sub j k

/-- The quotient of unbounded integers by way of their absolute values is the one toward zero, and
what is left of the dividend is the remainder. -/
theorem divMod_int (a b : Int) :
    divMod (int a) (int b) =
      if b = 0 then .error (.failure .divisionByZero)
      else .ok (int (a.tdiv b), int (a.tmod b)) := by
  have hzero : (int b).eq (int 0) = decide (b = 0) := Number.eq_of_comparable rfl
  have hneg (k : Int) : ((int k).lt? (int 0)).getD false = decide (k < 0) := by
    have hlt : (int k).lt? (int 0) = some (decide (k < 0)) :=
      Number.compare?_of_comparable (x := .unbounded k) (y := .unbounded 0) .less rfl
    rw [hlt, Option.getD_some]
  by_cases hb : b = 0
  · subst hb
    rfl
  · -- what is left of the dividend is the remainder, whatever form the quotient has
    have hleft {q : Int} (hq : q = a.tdiv b) :
        (mul (int b) (int q) >>= fun p ↦ sub (int a) p >>= fun s ↦ Except.ok (int q, s)) =
          (.ok (int (a.tdiv b), int (a.tmod b)) : Answer (Value × Value)) := by
      subst hq
      rw [mul_int]
      change (sub (int a) (int (b * a.tdiv b)) >>= fun s ↦ _) = _
      rw [sub_int, ← Int.tmod_def]
      rfl
    have hq := (tdiv_eq_ediv_natAbs a b).symm
    rw [if_neg hb, divMod, hzero, hneg, hneg, decide_eq_false hb]
    cases hs : (decide (a < 0) != decide (b < 0)) with
    | false =>
      rw [hs, if_neg Bool.false_ne_true] at hq
      exact hleft hq
    | true =>
      rw [hs, if_pos rfl] at hq
      exact hleft hq

/-- What is read off the division of unbounded integers. -/
private theorem divMod_int_bind (part : Value × Value → Value) (a b : Int) :
    (do return part (← divMod (int a) (int b))) =
      if b = 0 then .error (.failure .divisionByZero)
      else .ok (part (int (a.tdiv b), int (a.tmod b))) := by
  rw [divMod_int]
  split <;> rfl

/-- The quotient of unbounded integers. -/
theorem quo_int (a b : Int) :
    quo (int a) (int b) =
      if b = 0 then .error (.failure .divisionByZero) else .ok (int (a.tdiv b)) :=
  divMod_int_bind Prod.fst a b

/-- The remainder of unbounded integers. -/
theorem rem_int (a b : Int) :
    rem (int a) (int b) =
      if b = 0 then .error (.failure .divisionByZero) else .ok (int (a.tmod b)) :=
  divMod_int_bind Prod.snd a b

/-- Two values of one representation are divided in it. -/
theorem quo_ofCarrier (x y : r.Carrier) :
    quo (ofCarrier r x) (ofCarrier r y) =
      (ofCarrier r <$> CheckedInt.quo x y).mapError .failure := by
  cases r with
  | unbounded =>
    rw [quo_eq]
    refine (quo_int x y).trans ?_
    change _ = (ofCarrier .unbounded <$> if y = 0 then _ else _ : Checked _).mapError _
    split <;> rfl
  | fixed f => exact divide_of_operand? .quo (Number.operand?_self y)
  | signMagnitude w => exact divide_of_operand? .quo (Number.operand?_self y)

/-- The remainder is one of that representation. -/
theorem rem_ofCarrier (x y : r.Carrier) :
    rem (ofCarrier r x) (ofCarrier r y) =
      (ofCarrier r <$> CheckedInt.rem x y).mapError .failure := by
  cases r with
  | unbounded =>
    rw [rem_eq]
    refine (rem_int x y).trans ?_
    change _ = (ofCarrier .unbounded <$> if y = 0 then _ else _ : Checked _).mapError _
    split <;> rfl
  | fixed f => exact divide_of_operand? .rem (Number.operand?_self y)
  | signMagnitude w => exact divide_of_operand? .rem (Number.operand?_self y)

/-- Quotient and remainder of two values of one representation are the parts of the division of
their integers, where the divisor is not zero and the quotient does not leave the type. -/
structure DividesTowardZero (r : Rep) (x y : r.Carrier) : Prop where
  zero : toInt y = 0 →
    StopsAs (quo (ofCarrier r x) (ofCarrier r y)) .divisionByZero ∧
    StopsAs (rem (ofCarrier r x) (ofCarrier r y)) .divisionByZero
  parts : toInt y ≠ 0 → ∃ q s,
    IsTruncatedDivision (toInt x) (toInt y) q s ∧
    (∀ q' s', IsTruncatedDivision (toInt x) (toInt y) q' s' → q' = q ∧ s' = s) ∧
    Returns r (rem (ofCarrier r x) (ofCarrier r y)) s ∧
    (¬r.NegatesLeast (toInt x) (toInt y) → Returns r (quo (ofCarrier r x) (ofCarrier r y)) q)
  overflow : StopsAs (quo (ofCarrier r x) (ofCarrier r y)) (.failure .overflow) ↔
    r.NegatesLeast (toInt x) (toInt y)

/-- A quotient that leaves the type can be named. -/
theorem stopsAs_quo_of_negatesLeast {x y : r.Carrier}
    (h : r.NegatesLeast (toInt x) (toInt y)) :
    StopsAs (quo (ofCarrier r x) (ofCarrier r y)) (.failure .overflow) := by
  have hb : r ≠ .unbounded := by
    rintro rfl
    obtain ⟨f, hf, -⟩ := h
    cases hf
  have hy : toInt y ≠ 0 := by
    obtain ⟨-, -, -, -, hy⟩ := h
    omega
  have hlt : ((toInt x).tdiv (toInt y)).natAbs ≤ twoPow 256 :=
    Nat.le_trans (Int.natAbs_tdiv_le_natAbs ..)
      (Nat.le_trans (Rep.natAbs_le_of_represents hb (Rep.represents_toInt x))
        (twoPow_le_twoPow (by decide)))
  have hrep := mt (Rep.represents_tdiv_iff x y hy).mp (not_not.mpr h)
  rw [quo_ofCarrier, quo_eq, if_neg hy, ← Fault.overflowKind_of_natAbs_le hlt]
  exact Rep.stopsAs_of_not_represents hrep (ofCarrier r)

/-- Every representation divides toward zero. -/
theorem dividesTowardZero (x y : r.Carrier) : DividesTowardZero r x y where
  zero hy := by
    rw [quo_ofCarrier, rem_ofCarrier, quo_eq, rem_eq, if_pos hy, if_pos hy]
    exact ⟨⟨_, rfl, rfl⟩, ⟨_, rfl, rfl⟩⟩
  parts hy := by
    refine ⟨_, _, isTruncatedDivision_tdiv hy _, fun _ _ h ↦ h.eq_tdiv_tmod, ?_, fun hleast ↦ ?_⟩
    · rw [rem_ofCarrier, rem_eq, if_neg hy]
      exact (returnsOrOverflows_of_eq rfl).value (Rep.represents_tmod x _)
    · rw [quo_ofCarrier, quo_eq, if_neg hy]
      exact (returnsOrOverflows_of_eq rfl).value ((Rep.represents_tdiv_iff x y hy).mpr hleast)
  overflow := by
    refine ⟨fun hstop ↦ ?_, stopsAs_quo_of_negatesLeast⟩
    by_contra hleast
    rw [quo_ofCarrier, quo_eq] at hstop
    split at hstop
    · obtain ⟨e, he, hkind⟩ := hstop
      cases he
      cases hkind
    · next hy =>
      obtain ⟨z, hz⟩ :=
        Rep.exists_ofInt_of_represents ((Rep.represents_tdiv_iff x y hy).mpr hleast)
      rw [hz] at hstop
      exact not_stopsAs_ok hstop

/-- The laws of the remainder of unbounded integers. Where one side has no value because a divisor
is zero, the other one stops with the same fault. -/
structure RemainderLaws (a b m : Int) : Prop where
  neg_left : (do rem (← neg (int a)) (int m)) = (do neg (← rem (int a) (int m)))
  neg_right : (do rem (int a) (← neg (int m))) = rem (int a) (int m)
  mul : (do
      let s ← rem (int a) (int m)
      let t ← rem (int b) (int m)
      rem (← Value.mul s t) (int m)) = (do rem (← Value.mul (int a) (int b)) (int m))

/-- Every three integers satisfy them. -/
theorem remainderLaws (a b m : Int) : RemainderLaws a b m where
  neg_left := by
    change rem (int (-a)) (int m) = rem (int a) (int m) >>= neg
    rw [rem_int, rem_int, Int.neg_tmod]
    split <;> rfl
  neg_right := by
    change rem (int a) (int (-m)) = _
    rw [rem_int, rem_int, Int.tmod_neg]
    simp only [Int.neg_eq_zero]
  mul := by
    by_cases hm : m = 0
    · subst hm
      rw [mul_int]
      rfl
    · have hrem (c : Int) : rem (int c) (int m) = .ok (int (c.tmod m)) := by
        rw [rem_int, if_neg hm]
      rw [hrem, hrem, mul_int]
      change (Value.mul (int (a.tmod m)) (int (b.tmod m)) >>= fun p ↦ rem p (int m)) =
        rem (int (a * b)) (int m)
      rw [mul_int]
      change rem (int (a.tmod m * b.tmod m)) (int m) = _
      rw [hrem, hrem, ← Int.mul_tmod]

/-- Every representation divides toward zero, and the remainders of unbounded integers satisfy the
laws that come of it. -/
theorem divides_toward_zero :
    (∀ (r : Rep) (x y : r.Carrier), DividesTowardZero r x y) ∧
      ∀ a b m : Int, RemainderLaws a b m :=
  ⟨fun _ ↦ dividesTowardZero, remainderLaws⟩

end Value

end Aliquot
