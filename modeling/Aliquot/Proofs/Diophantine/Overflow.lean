import Aliquot.Proofs.Centring
import Aliquot.Proofs.Range
import Aliquot.Proofs.Simulation.Diophantine

/-!
# Overflows of linear equations

Once the extended algorithm has ended, an equation is solved in every type that holds its products
with the constant and the way that centring moves the pair. Centring itself makes nothing that is
greater than the coordinates it is given.
-/

namespace Aliquot

open CheckedInt

variable {α : Type} [CheckedInt α] {least greatest : Int}

namespace Diophantine

variable {A B g k p q : Int}

/-- A shift ends when the type holds the coordinate on both sides of zero. -/
theorem shift_attains (hr : HasRange α least greatest) {x step : α} {i j : Int} (hx : Reads x i)
    (hs : Reads step j) (hi : (i.natAbs : Int) ≤ greatest) :
    Attains Reads (shift x step) (i.tdiv j) := by
  unfold shift
  rw [hs.isZero_eq]
  split
  · next hz =>
    rw [isZero_int.mp hz, Int.tdiv_zero]
    exact ⟨_, rfl, .zero⟩
  · next hz =>
    have hle := Int.natAbs_tdiv_le_natAbs i j
    exact .quo hx hs (mt isZero_int.mpr hz) (hr.holds_of_natAbs_le (by omega))

/-- Moving back ends when the type holds the two ways and the coordinates that they lead to. -/
theorem moveBack_attains {x y stepX stepY n : α} {i j u v l : Int} (hx : Reads x i)
    (hy : Reads y j) (hu : Reads stepX u) (hv : Reads stepY v) (hn : Reads n l)
    (hmoveX : Holds α (l * u)) (hmoveY : Holds α (l * v)) (hx₀ : Holds α (i - l * u))
    (hy₀ : Holds α (j - l * v)) :
    Attains SolutionFamily.Reads (moveBack x y stepX stepY n) ⟨i - l * u, j - l * v, u, v⟩ := by
  apply (Attains.mul hn hu hmoveX).bind
  intro _ hm
  apply (Attains.sub hx hm hx₀).bind
  intro _ hx
  apply (Attains.mul hn hv hmoveY).bind
  intro _ hm
  apply (Attains.sub hy hm hy₀).bind
  intro _ hy
  exact ⟨_, rfl, hx, hy, hu, hv⟩

/-- Centring a multiple of coefficients that combine the steps to one ends when the type holds the
multiples and the way that they are moved. -/
theorem center_attains (hr : HasRange α least greatest) {x y stepX stepY : α}
    {t : SolutionFamily Int} (hone : p * A + q * B = 1)
    (ht : center (k * p) (k * q) B (-A) = .ok t) (hx : Reads x (k * p)) (hy : Reads y (k * q))
    (hu : Reads stepX B) (hv : Reads stepY (-A))
    (hsmall : ((max (k * p).natAbs (k * q).natAbs : Nat) : Int) ≤ greatest)
    (hmoveX : Holds α (k * p - t.x₀)) (hmoveY : Holds α (k * q - t.y₀)) :
    Attains SolutionFamily.Reads (center x y stepX stepY) t := by
  have hmax := max_natAbs_center_le hone ht
  rw [center_int] at ht
  cases ht
  dsimp only at hmax hmoveX hmoveY
  rw [sub_sub_cancel] at hmoveX hmoveY
  rw [center_eq]
  apply (Attains.abs hx (hr.holds_of_natAbs_le (by omega))).bind
  intro _ hax
  apply (Attains.abs hy (hr.holds_of_natAbs_le (by omega))).bind
  intro _ hay
  have hlt : lt ((k * q).natAbs : Int) (k * p).natAbs = true ↔ (k * q).natAbs < (k * p).natAbs :=
    lt_iff.trans Int.ofNat_lt
  have hback : Attains Reads (if lt ((k * q).natAbs : Int) (k * p).natAbs then shift x stepX
      else shift y stepY) (stepsBack (k * p) (k * q) B (-A)) := by
    simp only [hlt, stepsBack]
    split
    · exact shift_attains hr hx hu (by omega)
    · exact shift_attains hr hy hv (by omega)
  rw [hay.lt_eq hax]
  apply hback.bind
  intro _ hn
  exact moveBack_attains hx hy hu hv hn hmoveX hmoveY (hr.holds_of_natAbs_le (by omega))
    (hr.holds_of_natAbs_le (by omega))

/-- A multiple is no smaller. -/
theorem natAbs_le_natAbs_mul (hg : g ≠ 0) (k : Int) : k.natAbs ≤ (g * k).natAbs := by
  rw [Int.natAbs_mul]
  exact Nat.le_mul_of_pos_left _ (Int.natAbs_pos.mpr hg)

/-- A multiple of a divisor that is held on both sides of zero is divided by it. -/
theorem quo_mul_attains (hr : HasRange α least greatest) {x y : α} {i j : Int}
    (hx : Reads x (i * j)) (hy : Reads y i) (hi : i ≠ 0) (h : ((i * j).natAbs : Int) ≤ greatest) :
    Attains Reads (quo x y) j := by
  have hj := natAbs_le_natAbs_mul hi j
  have hquo : (i * j).tdiv i = j := Int.mul_tdiv_cancel_left _ hi
  rw [← hquo]
  exact .quo hx hy hi (hr.holds_of_natAbs_le (by omega))

/-- The numbers of an equation are the multiples of `g` by `A`, `B` and `k`, the row has `g` with
coefficients that combine `A` and `B` to one, and `t` is the family that is centred from their
multiples by `k`. -/
structure Factors (a b c : α) (row : Euclid.Row α) (g A B k p q : Int)
    (t : SolutionFamily Int) : Prop where
  ne_zero : g ≠ 0
  first : Reads a (g * A)
  second : Reads b (g * B)
  constant : Reads c (g * k)
  row : row.Reads ⟨g, p, q⟩
  combine : p * A + q * B = 1
  centred : center (k * p) (k * q) B (-A) = .ok t

/-- What a family is made from does not exceed `greatest` in absolute value: the coefficients, the
products with the constant and the way that centring moves the pair. -/
structure WithinBound (greatest g A B k p q : Int) (t : SolutionFamily Int) : Prop where
  first : ((g * A).natAbs : Int) ≤ greatest
  second : ((g * B).natAbs : Int) ≤ greatest
  product₁ : ((g * (k * p)).natAbs : Int) ≤ greatest
  product₂ : ((g * (k * q)).natAbs : Int) ≤ greatest
  moveX : ((k * p - t.x₀).natAbs : Int) ≤ greatest
  moveY : ((k * q - t.y₀).natAbs : Int) ≤ greatest

variable {a b c : α} {row : Euclid.Row α} {t : SolutionFamily Int}

/-- A family is made from the divisor when everything that it is made from is in range. -/
theorem solveWith_attains (hr : HasRange α least greatest) (h : Factors a b c row g A B k p q t)
    (hle : WithinBound greatest g A B k p q t) :
    Attains SolutionReads (solveWith a b c row) (t, g) := by
  have hn : ((g * -A).natAbs : Int) ≤ greatest := by
    rw [Int.mul_neg, Int.natAbs_neg]
    exact hle.first
  have hx := Int.mul_assoc g k p ▸ Attains.mul h.constant h.row.coeff₁
  have hy := Int.mul_assoc g k q ▸ Attains.mul h.constant h.row.coeff₂
  apply (hx (hr.holds_of_natAbs_le hle.product₁)).bind
  intro _ hm
  apply (quo_mul_attains hr hm h.row.value h.ne_zero hle.product₁).bind
  intro _ hx
  apply (hy (hr.holds_of_natAbs_le hle.product₂)).bind
  intro _ hm
  apply (quo_mul_attains hr hm h.row.value h.ne_zero hle.product₂).bind
  intro _ hy
  apply (quo_mul_attains hr h.second h.row.value h.ne_zero hle.second).bind
  intro _ hu
  apply (Attains.neg h.first (hr.holds_of_natAbs_le (Int.mul_neg .. ▸ hn))).bind
  intro _ hm
  rw [← Int.mul_neg] at hm
  apply (quo_mul_attains hr hm h.row.value h.ne_zero hn).bind
  intro _ hv
  have hp := hle.product₁
  have hq := hle.product₂
  have := natAbs_le_natAbs_mul h.ne_zero (k * p)
  have := natAbs_le_natAbs_mul h.ne_zero (k * q)
  apply (center_attains hr h.combine h.centred hx hy hu hv (by omega)
    (hr.holds_of_natAbs_le hle.moveX) (hr.holds_of_natAbs_le hle.moveY)).bind
  intro _ hs
  exact ⟨_, rfl, hs, h.row.value⟩

/-- The remainder by a number other than zero is made. It is zero just when the number divides. -/
theorem exists_rem (hr : HasRange α least greatest) {x y : α} {i j : Int} (hx : Reads x i)
    (hy : Reads y j) (hj : j ≠ 0) : ∃ r, rem x y = .ok r ∧ (isZero r = true ↔ j ∣ i) := by
  obtain ⟨r, hrem, hread⟩ :=
    Attains.rem hx hy hj (hr.holds_of_between hx.holds (tmod_between i j))
  refine ⟨r, hrem, ?_⟩
  rw [isZero_iff, hread, Int.dvd_iff_tmod_eq_zero]

/-- The want of a solution is seen once the extended algorithm has ended. -/
theorem failsWith_noSolution_of_xgcd (hr : HasRange α least greatest)
    (h : Euclid.xgcd a b = .ok row) (hc : ¬((toInt a).gcd (toInt b) : Int) ∣ toInt c) :
    FailsWith (solve a b c) .noSolution := by
  obtain ⟨ints, hints, hread⟩ := Euclid.exists_reads_of_xgcd_eq_ok h
  have hg := Euclid.natAbs_value_of_xgcd hints
  rw [← dvd_iff_gcd_dvd hg] at hc
  rw [solve_eq, h]
  change FailsWith (if isZero row.value then _ else _) _
  split
  · next hz =>
    have hc : ¬isZero c = true := by
      rw [isZero_iff]
      intro hzero
      exact hc (hzero ▸ dvd_zero _)
    rw [if_neg hc]
    exact failsWith_error.mpr rfl
  · next hz =>
    rw [isZero_iff, hread.value] at hz
    obtain ⟨r, hrem, hzero⟩ := exists_rem hr (x := c) rfl hread.value hz
    rw [hrem]
    change FailsWith (if isZero r then _ else _) _
    rw [if_neg (mt hzero.mp hc)]
    exact failsWith_error.mpr rfl

/-- The equation of zeros is refused once the extended algorithm has ended. -/
theorem failsWith_badArgument_of_xgcd (h : Euclid.xgcd a b = .ok row) (ha : toInt a = 0)
    (hb : toInt b = 0) (hc : toInt c = 0) : FailsWith (solve a b c) .badArgument := by
  obtain ⟨ints, hints, hread⟩ := Euclid.exists_reads_of_xgcd_eq_ok h
  have hg := Euclid.natAbs_value_of_xgcd hints
  rw [ha, hb, Int.gcd_zero_left, Int.natAbs_zero, Int.natAbs_eq_zero] at hg
  have hz : isZero row.value = true := isZero_iff.mpr (hread.value.trans hg)
  rw [solve_eq, h]
  change FailsWith (if isZero row.value then _ else _) _
  rw [if_pos hz, if_pos (isZero_iff.mpr hc)]
  exact failsWith_error.mpr rfl

/-- An equation whose constant is a multiple of the divisor is solved once the extended algorithm
has ended and the family can be made. -/
theorem solve_attains (hr : HasRange α least greatest) (hx : Euclid.xgcd a b = .ok row)
    (h : Factors a b c row g A B k p q t) (hle : WithinBound greatest g A B k p q t) :
    Attains SolutionReads (solve a b c) (t, g) := by
  have hz : ¬isZero row.value = true := by
    rw [isZero_iff, h.row.value]
    exact h.ne_zero
  obtain ⟨r, hrem, hzero⟩ := exists_rem hr h.constant h.row.value h.ne_zero
  rw [solve_eq, hx]
  change Attains SolutionReads (if isZero row.value then _ else _) _
  rw [if_neg hz, hrem]
  change Attains SolutionReads (if isZero r then _ else _) _
  rw [if_pos (hzero.mpr ⟨k, rfl⟩)]
  exact solveWith_attains hr h hle

/-- An equation with a solution has such factors once the extended algorithm has ended. -/
theorem exists_factors_of_xgcd (h : Euclid.xgcd a b = .ok row) (hab : toInt a ≠ 0 ∨ toInt b ≠ 0)
    (hc : ((toInt a).gcd (toInt b) : Int) ∣ toInt c) :
    ∃ g A B k p q t, Factors a b c row g A B k p q t ∧
      Euclid.xgcd (toInt a) (toInt b) = .ok ⟨g, p, q⟩ := by
  obtain ⟨_, t, -, -, -, ht, -⟩ := exists_solve hab hc
  obtain ⟨A, B, k, p, q, hg, hA, hB, hk, hone, hints, ht⟩ := exists_center_of_solve ht
  obtain ⟨_, hints', hread⟩ := Euclid.exists_reads_of_xgcd_eq_ok h
  rw [hints] at hints'
  cases hints'
  exact ⟨_, A, B, k, p, q, t, ⟨hg, hA, hB, hk, hread, hone, ht⟩, hints⟩

/-- An equation with a solution is solved once the extended algorithm has ended, when the type holds
the coefficients and the doubles of the products with the constant on both sides of zero. -/
theorem exists_solve_of_xgcd (hr : HasRange α least greatest) (h : Euclid.xgcd a b = .ok row)
    (hab : toInt a ≠ 0 ∨ toInt b ≠ 0) (hc : ((toInt a).gcd (toInt b) : Int) ∣ toInt c)
    (ha : ((toInt a).natAbs : Int) ≤ greatest) (hb : ((toInt b).natAbs : Int) ≤ greatest)
    (hp : 2 * ((toInt c * toInt row.coeff₁).natAbs : Int) ≤ greatest)
    (hq : 2 * ((toInt c * toInt row.coeff₂).natAbs : Int) ≤ greatest) :
    ∃ s, solve a b c = .ok s := by
  obtain ⟨g, A, B, k, p, q, t, hf, -⟩ := exists_factors_of_xgcd h hab hc
  have hmax := max_natAbs_center_le hf.combine hf.centred
  rw [hf.first] at ha
  rw [hf.second] at hb
  rw [hf.row.coeff₁, hf.constant, Int.mul_assoc] at hp
  rw [hf.row.coeff₂, hf.constant, Int.mul_assoc] at hq
  dsimp only at hp hq
  have := natAbs_le_natAbs_mul hf.ne_zero (k * p)
  have := natAbs_le_natAbs_mul hf.ne_zero (k * q)
  -- both ends of each move are bounded by the products, so the moves are bounded by their doubles
  have hle : WithinBound greatest g A B k p q t :=
    ⟨ha, hb, by omega, by omega, by omega, by omega⟩
  obtain ⟨s, hs, -⟩ := solve_attains hr h hf hle
  exact ⟨s, hs⟩

end Diophantine

end Aliquot
