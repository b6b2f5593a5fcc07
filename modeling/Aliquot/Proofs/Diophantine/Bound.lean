import Aliquot.Proofs.Diophantine.Overflow
import Aliquot.Proofs.Euclid.Least
import Aliquot.Proofs.Euclid.Overflow

/-!
# A bound below which equations do not overflow

The coefficients of the extended algorithm are at most as large as the numbers of the equation, so
the product of the constant with the greater number bounds the products that a pair is made of. The
same product bounds the way that centring moves the pair, as the greater coefficient belongs to the
smaller number. Apart from the least integer of a fixed width, that leaves nothing to overflow.
-/

namespace Aliquot

open CheckedInt

namespace Diophantine

section Move

variable {A B k p q : Int}

/-- A quotient multiplied by another number, in absolute values. -/
theorem natAbs_tdiv_mul (x u v : Int) :
    (x.tdiv u * v).natAbs = x.natAbs / u.natAbs * v.natAbs := by
  rw [Int.natAbs_mul, Int.natAbs_tdiv]
  rfl

/-- A multiple `k * p` of the greater coefficient contains the step `b` so few times that as many
steps `a` of the other coordinate come to no more than the multiple. -/
theorem div_mul_le {a b k p q : Nat} (h : p * a ≤ q * b + 1) (hlt : q < p) :
    k * p / b * a ≤ k * p := by
  rcases Nat.eq_zero_or_pos b with rfl | hb
  · rw [Nat.div_zero, Nat.zero_mul]
    exact Nat.zero_le _
  refine Nat.le_of_mul_le_mul_right ?_ hb
  calc k * p / b * a * b = k * p / b * b * a := Nat.mul_right_comm ..
    _ ≤ k * p * a := Nat.mul_le_mul_right a (Nat.div_mul_le_self ..)
    _ = k * (p * a) := Nat.mul_assoc ..
    _ ≤ k * ((q + 1) * b) := Nat.mul_le_mul_left k (by rw [Nat.succ_mul]; omega)
    _ ≤ k * (p * b) := Nat.mul_le_mul_left k (Nat.mul_le_mul_right b hlt)
    _ = k * p * b := (Nat.mul_assoc ..).symm

/-- Coefficients of one absolute value that combine two numbers to one are units. -/
theorem natAbs_le_one_of_natAbs_eq (hone : p * A + q * B = 1) (heq : p.natAbs = q.natAbs) :
    q.natAbs ≤ 1 := by
  have hp : q ∣ p := Int.natAbs_dvd_natAbs.mp (dvd_of_eq heq.symm)
  have hdvd : q ∣ 1 := hone ▸ Int.dvd_add (hp.mul_right A) (Int.dvd_mul_right q B)
  exact Nat.le_of_dvd Nat.one_pos (Int.natAbs_dvd_natAbs.mpr hdvd)

/-- The products that combine two numbers to one differ by no more than one. -/
theorem natAbs_mul_le_of_combine (hone : p * A + q * B = 1) :
    p.natAbs * A.natAbs ≤ q.natAbs * B.natAbs + 1 := by
  rw [← Int.natAbs_mul, ← Int.natAbs_mul]
  omega

/-- Centring moves each coordinate of a multiple of coefficients that combine the steps to one by no
more than the greater one, unless they have one absolute value: the second coordinate is moved by
its own steps then, and the first one at most by the multiple of its step. -/
theorem natAbs_stepsBack_mul_le (hone : p * A + q * B = 1) :
    (stepsBack (k * p) (k * q) B (-A) * B).natAbs ≤
        max (max (k * p).natAbs (k * q).natAbs) (k * B).natAbs ∧
      (stepsBack (k * p) (k * q) B (-A) * -A).natAbs ≤ max (k * p).natAbs (k * q).natAbs := by
  have hp := natAbs_mul_le_of_combine hone
  have hq := natAbs_mul_le_of_combine ((add_comm ..).trans hone)
  unfold stepsBack
  split
  · next hlt =>
    simp only [natAbs_tdiv_mul, Int.natAbs_neg, Int.natAbs_mul k] at hlt ⊢
    have hqp : q.natAbs < p.natAbs := Nat.lt_of_mul_lt_mul_left hlt
    have hown := Nat.div_mul_le_self (k.natAbs * p.natAbs) B.natAbs
    have hother := div_mul_le (k := k.natAbs) hp hqp
    omega
  · next hle =>
    simp only [natAbs_tdiv_mul, Int.natAbs_neg, Int.natAbs_mul k] at hle ⊢
    have hown := Nat.div_mul_le_self (k.natAbs * q.natAbs) A.natAbs
    by_cases hpq : p.natAbs < q.natAbs
    · have hother := div_mul_le (k := k.natAbs) hq hpq
      omega
    · -- coefficients of one absolute value are units, so there are no more steps than `k` counts
      have htie : k.natAbs * q.natAbs ≤ k.natAbs := by
        rcases Nat.eq_zero_or_pos k.natAbs with hk | hk
        · rw [hk, Nat.zero_mul]
        · have hpq' := Nat.le_of_mul_le_mul_left (Nat.not_lt.mp hle) hk
          have := natAbs_le_one_of_natAbs_eq hone (by omega)
          exact (Nat.mul_le_mul_left _ this).trans_eq (Nat.mul_one _)
      have hother := Nat.mul_le_mul_right B.natAbs
        ((Nat.div_le_self _ A.natAbs).trans htie)
      omega

/-- Centring moves the first coordinate by no more than the greater one or the multiple of its step,
and the second one by no more than the greater one. -/
theorem natAbs_sub_center_le {s : SolutionFamily Int} (hone : p * A + q * B = 1)
    (h : center (k * p) (k * q) B (-A) = .ok s) :
    (k * p - s.x₀).natAbs ≤ max (max (k * p).natAbs (k * q).natAbs) (k * B).natAbs ∧
      (k * q - s.y₀).natAbs ≤ max (k * p).natAbs (k * q).natAbs := by
  have hle := natAbs_stepsBack_mul_le (k := k) hone
  rw [center_int] at h
  cases h
  rwa [sub_sub_cancel, sub_sub_cancel]

end Move

section Solve

variable {α : Type} [CheckedInt α] {least greatest : Int} {a b c : α} {row : Euclid.Row α}

/-- An equation with a solution is solved once the extended algorithm has ended, when its constant
has a product in range with a positive number that neither coefficient exceeds. -/
theorem exists_solve_of_mul_le (hr : HasRange α least greatest) (h : Euclid.xgcd a b = .ok row)
    (hab : toInt a ≠ 0 ∨ toInt b ≠ 0) (hc : ((toInt a).gcd (toInt b) : Int) ∣ toInt c)
    (ha : ((toInt a).natAbs : Int) ≤ greatest) (hb : ((toInt b).natAbs : Int) ≤ greatest)
    {n : Nat} (hpos : 0 < n) (han : (toInt a).natAbs ≤ n) (hbn : (toInt b).natAbs ≤ n)
    (hmax : (((toInt c).natAbs * n : Nat) : Int) ≤ greatest) : ∃ s, solve a b c = .ok s := by
  obtain ⟨g, A, B, k, p, q, t, hf, hints⟩ := exists_factors_of_xgcd h hab hc
  obtain ⟨hp, hq⟩ := Euclid.natAbs_coeff_le hints
  dsimp only at hp hq
  have hkp : (g * (k * p)).natAbs ≤ (toInt c).natAbs * n := by
    rw [← Int.mul_assoc, ← hf.constant, Int.natAbs_mul]
    exact Nat.mul_le_mul_left _ (by omega)
  have hkq : (g * (k * q)).natAbs ≤ (toInt c).natAbs * n := by
    rw [← Int.mul_assoc, ← hf.constant, Int.natAbs_mul]
    exact Nat.mul_le_mul_left _ (by omega)
  rw [hf.first] at ha
  rw [hf.second] at hb hbn
  have hkB : (k * B).natAbs ≤ (toInt c).natAbs * n := by
    rw [Int.natAbs_mul, hf.constant]
    exact Nat.mul_le_mul (natAbs_le_natAbs_mul hf.ne_zero k)
      ((natAbs_le_natAbs_mul hf.ne_zero B).trans hbn)
  have := natAbs_le_natAbs_mul hf.ne_zero (k * p)
  have := natAbs_le_natAbs_mul hf.ne_zero (k * q)
  obtain ⟨hmoveX, hmoveY⟩ := natAbs_sub_center_le hf.combine hf.centred
  have hle : WithinBound greatest g A B k p q t :=
    ⟨ha, hb, by omega, by omega, by omega, by omega⟩
  obtain ⟨s, hs, -⟩ := solve_attains hr h hf hle
  exact ⟨s, hs⟩

/-- Under such a bound every equation comes to one of its proper ends. -/
theorem solve_ends_of_mul_le (hr : HasRange α least greatest)
    (ha : ((toInt a).natAbs : Int) ≤ greatest) (hb : ((toInt b).natAbs : Int) ≤ greatest)
    {n : Nat} (hpos : 0 < n) (han : (toInt a).natAbs ≤ n) (hbn : (toInt b).natAbs ≤ n)
    (hmax : (((toInt c).natAbs * n : Nat) : Int) ≤ greatest) :
    (∃ s, solve a b c = .ok s) ∨ FailsWith (solve a b c) .noSolution ∨
      FailsWith (solve a b c) .badArgument := by
  obtain ⟨row, hrow⟩ := Euclid.exists_xgcd_of_small (x := a) (y := b) hr rfl rfl (.inl ⟨ha, hb⟩)
  by_cases hc : ((toInt a).gcd (toInt b) : Int) ∣ toInt c
  · by_cases hab : toInt a ≠ 0 ∨ toInt b ≠ 0
    · exact .inl (exists_solve_of_mul_le hr hrow hab hc ha hb hpos han hbn hmax)
    · obtain ⟨ha₀, hb₀⟩ : toInt a = 0 ∧ toInt b = 0 := by omega
      rw [ha₀, hb₀] at hc
      exact .inr (.inr (failsWith_badArgument_of_xgcd hrow ha₀ hb₀ (Int.zero_dvd.mp hc)))
  · exact .inr (.inl (failsWith_noSolution_of_xgcd hr hrow hc))

end Solve

/-- In a type up to `greatest` no equation overflows that has no least integer of a fixed width as a
coefficient and whose constant has a product in range with the greater coefficient, or with one. It
has the family of the equation of integers, or it is refused for the same cause. -/
theorem solve_never_overflows {r : Rep} {greatest : Int} (hg : r.greatest? = some greatest)
    (hs : r.isUnsigned = false) {a b c : r.Carrier} (ha : ¬r.IsFixedLeast (toInt a))
    (hb : ¬r.IsFixedLeast (toInt b))
    (hmax : (((toInt c).natAbs * max (max (toInt a).natAbs (toInt b).natAbs) 1 : Nat) : Int) ≤
      greatest) :
    ¬FailsWith (solve a b c) .overflow ∧
      ((∃ s t, solve a b c = .ok s ∧ solve (toInt a) (toInt b) (toInt c) = .ok t ∧
        SolutionReads s t) ∨
      ∃ e : Failure, solve a b c = .error e ∧ solve (toInt a) (toInt b) (toInt c) = .error e ∧
        (e.category? = some .noSolution ∨ e.category? = some .badArgument)) := by
  obtain ⟨least, hr⟩ := HasRange.exists_of_greatest? hg hs
  have hends := solve_ends_of_mul_le hr
    (Rep.natAbs_toInt_le hg hs ha) (Rep.natAbs_toInt_le hg hs hb)
    (Nat.le_max_right ..) ((Nat.le_max_left ..).trans (Nat.le_max_left ..))
    ((Nat.le_max_right ..).trans (Nat.le_max_left ..)) hmax
  have hsim : Simulates SolutionReads (solve a b c) (solve (toInt a) (toInt b) (toInt c)) :=
    solve_simulates rfl rfl rfl
  rcases hends with ⟨s, hs⟩ | hnone | hbad
  · obtain ⟨t, ht, hread⟩ := (hs ▸ hsim).exists_of_ok
    exact ⟨hs ▸ not_failsWith_ok, .inl ⟨s, t, hs, ht, hread⟩⟩
  · obtain ⟨e, he, hint, hcat⟩ := hsim.exists_error_of_failsWith hnone (by decide)
    exact ⟨mt hnone.iff_eq.mp (by decide), .inr ⟨e, he, hint, .inl hcat⟩⟩
  · obtain ⟨e, he, hint, hcat⟩ := hsim.exists_error_of_failsWith hbad (by decide)
    exact ⟨mt hbad.iff_eq.mp (by decide), .inr ⟨e, he, hint, .inr hcat⟩⟩

/-- In eight bits the equation `2*x + 3*y = 40`, whose coefficients for the divisor have one
absolute value, is solved as it is on integers, and so is `-255*x + 153*y = 1` refused where all
eight bits are for the magnitude. -/
theorem solve_eight_bits :
    let r := Rep.fixed (.signed .w8)
    let s := Rep.signMagnitude .w8
    let two : r.Carrier := ⟨2, by decide, by decide⟩
    let three : r.Carrier := ⟨3, by decide, by decide⟩
    let forty : r.Carrier := ⟨40, by decide, by decide⟩
    let greatest : s.Carrier := .ofParts ⟨255, by decide, by decide⟩ true
    let other : s.Carrier := .ofParts ⟨153, by decide, by decide⟩ false
    r.greatest? = some 127 ∧ s.greatest? = some 255 ∧
      (∃ s t, solve two three forty = .ok s ∧ solve (2 : Int) 3 40 = .ok t ∧ SolutionReads s t) ∧
      ¬FailsWith (solve greatest other one) .overflow := by
  intro r s two three forty greatest other
  have hr : r.greatest? = some 127 := by decide
  have hs : s.greatest? = some 255 := by decide
  have hleast {k : Int} (hk : k ≠ -128) : ¬r.IsFixedLeast k := by
    rintro ⟨_, hf, hmin⟩
    cases Rep.fixed.inj hf
    exact hk hmin
  have hmagnitude (k : Int) : ¬s.IsFixedLeast k := by
    rintro ⟨_, hf, -⟩
    change Rep.signMagnitude .w8 = _ at hf
    cases hf
  have htwo := solve_never_overflows hr rfl (a := two) (b := three) (c := forty)
    (hleast (by decide)) (hleast (by decide)) (by decide)
  have hone := solve_never_overflows hs rfl (a := greatest) (b := other) (c := one)
    (hmagnitude _) (hmagnitude _) (by decide)
  have hsolve : solve (2 : Int) 3 40 = .ok (⟨20, 0, 3, -2⟩, 1) := by decide +kernel
  refine ⟨hr, hs, ?_, hone.1⟩
  rcases htwo.2 with hok | ⟨e, -, he, -⟩
  · exact hok
  · cases hsolve.symm.trans he

end Diophantine

end Aliquot
