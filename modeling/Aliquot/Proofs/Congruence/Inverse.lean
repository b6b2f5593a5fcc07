import Aliquot.Proofs.Congruence.Overflow
import Aliquot.Proofs.Diophantine.Overflow
import Aliquot.Proofs.Euclid.Least
import Aliquot.Proofs.Euclid.Overflow
import Aliquot.Proofs.Report.Algorithms

/-!
# The outcomes of inverses

The equation of an inverse has one as its constant, so the pair that is centred consists of the
coefficients of the extended algorithm. These are at most half as large as the number and the
modulus, which leaves room for the way that centring moves them. What is left to overflow is the
extended algorithm itself, on the least fixed-width integer.
-/

namespace Aliquot

open CheckedInt
open Text (isLong)

variable {α : Type} [CheckedInt α] {least greatest : Int}

namespace Congruence

section Bounded

variable {n m : α} {row : Euclid.Row α}

/-- The want of an inverse is seen once the extended algorithm has ended. -/
theorem inverse_failsWith_noSolution_of_xgcd (hr : HasRange α least greatest)
    (h : Euclid.xgcd n m = .ok row) (hm : 0 < toInt m)
    (hgcd : (toInt n).gcd (toInt m) ≠ 1) : FailsWith (inverse n m) .noSolution := by
  have hone : ¬((toInt n).gcd (toInt m) : Int) ∣ toInt (one : α) := by
    rw [toInt_one, Int.natCast_dvd, Int.natAbs_one, Nat.dvd_one]
    exact hgcd
  rw [inverse_of_pos hm]
  exact (Diophantine.failsWith_noSolution_of_xgcd hr h hone).bind _

/-- An inverse is found once the extended algorithm has ended on a number that the type holds with
either sign. -/
theorem exists_inverse_of_xgcd (hr : HasRange α least greatest) (htwo : 2 ≤ greatest)
    (h : Euclid.xgcd n m = .ok row) (hn : ((toInt n).natAbs : Int) ≤ greatest) (hm : 0 < toInt m)
    (hgcd : (toInt n).gcd (toInt m) = 1) : ∃ x, inverse n m = .ok x := by
  obtain ⟨ints, hints, hread⟩ := Euclid.exists_reads_of_xgcd_eq_ok h
  have hle := Euclid.two_mul_natAbs_coeff_le hints hm hgcd
  have hmod : ((toInt m).natAbs : Int) ≤ greatest := by
    rw [Int.natAbs_of_nonneg hm.le]
    exact (hr.of_reads rfl).2
  have hone : ((toInt n).gcd (toInt m) : Int) ∣ toInt (one : α) := by
    rw [toInt_one, hgcd, Int.natCast_one]
  have hp : 2 * ((toInt (one : α) * toInt row.coeff₁).natAbs : Int) ≤ greatest := by
    rw [toInt_one, Int.one_mul, hread.coeff₁]
    omega
  have hq : 2 * ((toInt (one : α) * toInt row.coeff₂).natAbs : Int) ≤ greatest := by
    rw [toInt_one, Int.one_mul, hread.coeff₂]
    omega
  obtain ⟨⟨s, g⟩, hs⟩ :=
    Diophantine.exists_solve_of_xgcd hr h (.inr hm.ne') hone hn hmod hp hq
  have hdvd : toInt g ∣ toInt one := Diophantine.dvd_of_solve_eq_ok hs
  rw [toInt_one, ← Int.natAbs_dvd_natAbs, Int.natAbs_one, Nat.dvd_one] at hdvd
  obtain ⟨p, k, hp, hk⟩ := exists_residue hr hm hs (i := 0) (by omega)
  refine ⟨k, ?_⟩
  rw [inverse_of_pos hm, hs]
  change (s.at (0 : Nat) >>= fun p ↦ residue p.1 m) = _
  rw [hp]
  exact hk

end Bounded

section Outcomes

variable {r : Rep} {n m : r.Carrier}

/-- The extended algorithm ends for a positive modulus, unless the least fixed-width integer has no
divisor in common with it. -/
theorem exists_xgcd_of_pos (hs : r.isUnsigned = false) (hm : 0 < toInt m)
    (h : ¬((toInt n).gcd (toInt m) = 1 ∧ r.IsFixedLeast (toInt n))) :
    ∃ row, Euclid.xgcd n m = .ok row := by
  cases r with
  | unbounded =>
    obtain ⟨row, hrow, -⟩ := Euclid.exists_xgcd n m
    exact ⟨row, hrow⟩
  | fixed f =>
    have hf : f.isSigned = true := by simpa [Rep.isUnsigned] using hs
    apply Euclid.exists_xgcd_fixed hf
    rintro (⟨hn, hodd⟩ | ⟨hmin, -⟩)
    · refine h ⟨?_, f, rfl, hn⟩
      exact (congrArg (Int.gcd · m.val) hn).trans (Euclid.gcd_min hf hodd)
    · have := f.represents_zero.1
      change 0 < m.val at hm
      omega
  | signMagnitude w => exact Euclid.exists_xgcd_signMagnitude n m

/-- The least fixed-width integer overflows where it would have an inverse. -/
theorem inverse_overflows (hs : r.isUnsigned = false) (hm : 0 < toInt m)
    (hgcd : (toInt n).gcd (toInt m) = 1) (hn : r.IsFixedLeast (toInt n)) :
    FailsWith (inverse n m) .overflow := by
  obtain ⟨f, rfl, hn⟩ := hn
  have hf : f.isSigned = true := by simpa [Rep.isUnsigned] using hs
  have hodd : Odd (toInt m) := by
    by_contra heven
    rw [Int.not_odd_iff_even, even_iff_two_dvd] at heven
    -- the least integer is even, too
    have htwo := Int.dvd_coe_gcd (hn ▸ Euclid.two_dvd_min hf) heven
    rw [hgcd] at htwo
    omega
  rw [inverse_of_pos hm, Diophantine.solve_eq]
  exact ((Euclid.xgcd_overflows_fixed hf (.inl ⟨hn, hodd, hm⟩)).bind _).bind _

/-- That overflow is reported, as it is one of a bounded type. -/
theorem inverse_reports_overflow (hs : r.isUnsigned = false) (hm : 0 < toInt m)
    (hgcd : (toInt n).gcd (toInt m) = 1) (hn : r.IsFixedLeast (toInt n)) :
    Reports (inverse n m) (.failure .overflow) := by
  have hb : r ≠ .unbounded := by
    obtain ⟨f, rfl, -⟩ := hn
    exact Rep.fixed_ne_unbounded f
  exact (inverse_writesFailures (Rep.hasShortIntegers hb) n m).reports
    (inverse_overflows hs hm hgcd hn)

/-- A number that shares a divisor with a positive modulus has no inverse, which is reported for
numbers that are written. -/
theorem inverse_reports_noSolution (hs : r.isUnsigned = false) (hm : 0 < toInt m)
    (hgcd : (toInt n).gcd (toInt m) ≠ 1) :
    Reports (inverse n m)
      (Category.noSolution.reportKind (isLong (toInt n) || isLong (toInt m))) := by
  by_cases hb : r = .unbounded
  · subst hb
    have hfails : FailsFor (inverse n m) .noSolution (isLong (toInt n) || isLong (toInt m)) :=
      inverse_failsFor_noSolution hm hgcd
    exact hfails.reports
  · obtain ⟨row, hrow⟩ := exists_xgcd_of_pos hs hm fun h ↦ hgcd h.1
    obtain ⟨least, greatest, hr⟩ := HasRange.exists_of_bounded hb hs
    have hα := Rep.hasShortIntegers hb
    rw [hα.isLong_eq_false, hα.isLong_eq_false]
    exact (inverse_writesFailures hα n m).reports
      (inverse_failsWith_noSolution_of_xgcd hr hrow hm hgcd)

/-- Without a divisor in common with a positive modulus every other number has an inverse. -/
theorem exists_inverse_of_not_isFixedLeast (hs : r.isUnsigned = false) (hm : 0 < toInt m)
    (hgcd : (toInt n).gcd (toInt m) = 1) (hn : ¬r.IsFixedLeast (toInt n)) :
    ∃ x, inverse n m = .ok x := by
  obtain ⟨row, hrow⟩ := exists_xgcd_of_pos hs hm fun h ↦ hn h.2
  by_cases hb : r = .unbounded
  · subst hb
    obtain ⟨x, hx, -⟩ := exists_inverse hm hgcd
    exact ⟨x, hx⟩
  · obtain ⟨greatest, hg⟩ := Rep.exists_greatest?_eq hb
    obtain ⟨least, hr⟩ := HasRange.exists_of_greatest? hg hs
    exact exists_inverse_of_xgcd hr (Rep.two_le_of_greatest?_eq hg) hrow
      (Rep.natAbs_toInt_le hg hs hn) hm hgcd

/-- What is returned as the inverse is the only residue whose product with the number is one. -/
theorem inverse_eq_ok_iff (hm : 0 < toInt m) {x : r.Carrier} (h : inverse n m = .ok x) (k : Int) :
    (0 ≤ k ∧ k < toInt m ∧ toInt m ∣ toInt n * k - 1) ↔ k = toInt x := by
  have hsim : Simulates Reads (inverse n m) (inverse (toInt n) (toInt m)) :=
    inverse_simulates rfl rfl
  rw [h] at hsim
  obtain ⟨_, hx, hread⟩ := hsim.exists_of_ok
  cases hread
  have hgcd : (toInt n).gcd (toInt m) = 1 := by
    by_contra hgcd
    exact not_failsWith_ok (hx ▸ (inverse_failsFor_noSolution hm hgcd).failsWith)
  obtain ⟨_, hx', hspec⟩ := exists_inverse hm hgcd
  rw [hx] at hx'
  cases hx'
  constructor
  · intro hk
    exact inverse_unique hk hspec
  · rintro rfl
    exact hspec

/-- For any type with a sign: a modulus that is not positive is refused, then a number that shares a
divisor with it, then the least number of a fixed width overflows. Every other number has its
inverse, the only residue whose product with it is one, and that is zero modulo one. The integers of
bounded types are written, so what is refused there is reported as such; an unbounded integer that
is too long to be written has the refusal that names it reported as the fault to write it. -/
theorem inverse_outcomes (hs : r.isUnsigned = false) (n m : r.Carrier) :
    (r ≠ .unbounded → ¬isLong (toInt n) ∧ ¬isLong (toInt m)) ∧
    (toInt m ≤ 0 →
      (¬isLong (toInt m) → Reports (inverse n m) (.failure .badArgument)) ∧
      (isLong (toInt m) → Reports (inverse n m) .value)) ∧
    (0 < toInt m → (toInt n).gcd (toInt m) ≠ 1 →
      (¬isLong (toInt n) ∧ ¬isLong (toInt m) → Reports (inverse n m) (.failure .noSolution)) ∧
      (isLong (toInt n) ∨ isLong (toInt m) → Reports (inverse n m) .value)) ∧
    (0 < toInt m → (toInt n).gcd (toInt m) = 1 → r.IsFixedLeast (toInt n) →
      Reports (inverse n m) (.failure .overflow)) ∧
    (0 < toInt m → (toInt n).gcd (toInt m) = 1 → ¬r.IsFixedLeast (toInt n) →
      ∃ x, inverse n m = .ok x ∧
        (∀ k : Int, 0 ≤ k ∧ k < toInt m ∧ toInt m ∣ toInt n * k - 1 ↔ k = toInt x) ∧
        (toInt m = 1 → toInt x = 0)) := by
  refine ⟨fun hb ↦ ?_, fun hm ↦ ?_, fun hm hgcd ↦ ?_, inverse_reports_overflow hs,
    fun hm hgcd hn ↦ ?_⟩
  · have hα := Rep.hasShortIntegers hb
    simp [hα.isLong_eq_false]
  · have hfails : FailsFor (inverse n m) .badArgument (isLong (toInt m)) :=
      inverse_failsFor_badArgument hm
    rw [hfails.reports_iff, hfails.reports_iff, Category.failure_eq_reportKind_iff,
      Category.value_eq_reportKind_iff]
    simp
  · have hreports := inverse_reports_noSolution hs hm hgcd
    constructor
    · rintro ⟨hn, hm⟩
      rw [Bool.not_eq_true] at hn hm
      rwa [hn, hm] at hreports
    · intro hlong
      rw [← Bool.or_eq_true] at hlong
      rwa [hlong] at hreports
  · obtain ⟨x, hx⟩ := exists_inverse_of_not_isFixedLeast hs hm hgcd hn
    have hspec := inverse_eq_ok_iff hm hx
    refine ⟨x, hx, hspec, fun hone ↦ ?_⟩
    obtain ⟨h₀, hlt, -⟩ := (hspec _).mpr rfl
    omega

/-- In eight bits the modulus zero is refused, 6 has no inverse modulo 126, `-128` overflows modulo
127, and the inverse of `-127` is 62 modulo 125 and zero modulo one. -/
theorem inverse_int8 :
    let f := Format.signed .w8
    let r := Rep.fixed f
    let least : r.Carrier := ⟨-128, by decide, by decide⟩
    let n : r.Carrier := ⟨-127, by decide, by decide⟩
    let six : r.Carrier := ⟨6, by decide, by decide⟩
    let m : r.Carrier := ⟨125, by decide, by decide⟩
    let even : r.Carrier := ⟨126, by decide, by decide⟩
    let greatest : r.Carrier := ⟨127, by decide, by decide⟩
    r.isUnsigned = false ∧ Reports (inverse n zero) (.failure .badArgument) ∧
      Reports (inverse six even) (.failure .noSolution) ∧
      Reports (inverse least greatest) (.failure .overflow) ∧
      (∃ x, inverse n m = .ok x ∧ 62 = toInt x) ∧ ∃ x, inverse n one = .ok x ∧ toInt x = 0 := by
  intro f r least n six m even greatest
  have hb : r ≠ .unbounded := Rep.fixed_ne_unbounded f
  have hn : ¬r.IsFixedLeast (toInt n) := by
    rintro ⟨_, hf, hmin⟩
    cases Rep.fixed.inj hf
    exact absurd hmin (by decide)
  obtain ⟨hshort, hbad, -⟩ := inverse_outcomes (r := r) rfl n zero
  obtain ⟨hshort', -, hnone, -⟩ := inverse_outcomes (r := r) rfl six even
  obtain ⟨-, -, -, hover, -⟩ := inverse_outcomes (r := r) rfl least greatest
  obtain ⟨-, -, -, -, hok⟩ := inverse_outcomes (r := r) rfl n m
  obtain ⟨-, -, -, -, hone⟩ := inverse_outcomes (r := r) rfl n one
  obtain ⟨x, hx, hspec, -⟩ := hok (by decide) (by decide +kernel) hn
  obtain ⟨y, hy, -, hzero⟩ := hone (by decide) (by decide +kernel) hn
  exact ⟨rfl, (hbad (by decide)).1 (hshort hb).2,
    (hnone (by decide) (by decide +kernel)).1 (hshort' hb),
    hover (by decide) (by decide +kernel) ⟨f, rfl, rfl⟩,
    ⟨x, hx, (hspec 62).mp (by decide)⟩, y, hy, hzero (by decide)⟩

/-- Of the unbounded integers a modulus below zero is refused, and for the greatest one that is too
long to be written something else is reported. -/
theorem inverse_modulo_minus_long :
    let m : Rep.unbounded.Carrier := (-tenPow Text.digitLimit : Int)
    toInt m ≤ 0 ∧ Reports (inverse one m) .value ∧
      ¬Reports (inverse one m) (.failure .badArgument) := by
  have hlong : isLong (-tenPow Text.digitLimit) = true :=
    (Text.isLong_neg _).trans Text.isLong_tenPow
  have hm : -(tenPow Text.digitLimit : Int) ≤ 0 := Int.neg_nonpos_of_nonneg (Int.natCast_nonneg _)
  -- the power itself stays out of the argument
  generalize -(tenPow Text.digitLimit : Int) = k at hlong hm ⊢
  intro m
  have hfails : FailsFor (inverse one m) .badArgument (isLong k) :=
    inverse_failsFor_badArgument (m := m) hm
  refine ⟨hm, ?_, ?_⟩
  · rw [hfails.reports_iff, Category.value_eq_reportKind_iff]
    exact hlong
  · rw [hfails.reports_iff, Category.failure_eq_reportKind_iff]
    simp [hlong]

end Outcomes

end Congruence

end Aliquot
