import Aliquot.Audit.Reference
import Mathlib.Data.Int.ModEq
import Mathlib.Tactic.LinearCombination

/-!
# Soundness of the references

What an audit relies on in its references, and that the textbook forms fulfil it.
-/

namespace Aliquot

/-- References that have the values they are named for. -/
structure References.Sound (ref : References) : Prop where
  combine_gcd : ∀ a b, (ref.combine a b).gcd = a.gcd b
  gcd_eq : ∀ a b, ref.gcd a b = a.gcd b
  lcm_eq : ∀ a b, ref.lcm a b = a.lcm b
  /-- There is no inverse for a common divisor with the modulus, and none modulo one. -/
  inverse?_eq_none_iff : ∀ {n m}, 0 < m → (ref.inverse? n m = none ↔ n.gcd m ≠ 1 ∨ m = 1)
  inverse?_spec : ∀ {n m k}, 0 < m → ref.inverse? n m = some k → 0 ≤ k ∧ k < m ∧ m ∣ n * k - 1
  isSolvable_iff : ∀ {a b c}, a ≠ 0 → b ≠ 0 → (ref.isSolvable a b c = true ↔ (a.gcd b : Int) ∣ c)

namespace References.Sound

variable {ref : References} {a b m : Int}

/-- The reference counts the residues when there are any. -/
theorem residueCount?_of_dvd (hr : ref.Sound) (h : (a.gcd m : Int) ∣ b) :
    ref.residueCount? a b m = some (a.gcd m : Int) := by
  rw [References.residueCount?, hr.gcd_eq, if_pos (Int.emod_eq_zero_of_dvd h)]

/-- Otherwise the reference counts none. -/
theorem residueCount?_of_not_dvd (hr : ref.Sound) (h : ¬(a.gcd m : Int) ∣ b) :
    ref.residueCount? a b m = none := by
  rw [References.residueCount?, hr.gcd_eq, if_neg (mt Int.dvd_of_emod_eq_zero h)]

end References.Sound

namespace Reference

/-- The coefficients combine the numbers to the divisor. -/
def Combination.Combines (c : Combination) (a b : Int) : Prop := c.x * a + c.y * b = c.gcd

/-- The loop ends with the greatest common divisor of its numbers, and keeps combining `j` and `k`
to them. -/
theorem combineLoop_spec {a b : Nat} {x r y s j k : Int} (ha : x * j + y * k = a)
    (hb : r * j + s * k = b) :
    (combineLoop a b x r y s).Combines j k ∧ (combineLoop a b x r y s).gcd = (a.gcd b : Nat) := by
  induction a, b, x, r, y, s using combineLoop.induct with
  | case1 a x r y s =>
    rw [combineLoop, dif_pos rfl, Nat.gcd_zero_right]
    exact ⟨ha, rfl⟩
  | case2 a b x r y s h q ih =>
    have hdiv : (a / b : Nat) * (b : Int) + (a % b : Nat) = a := by
      exact_mod_cast Nat.div_add_mod' a b
    have hmod : (x - q * r) * j + (y - q * s) * k = (a % b : Nat) := by
      linear_combination ha - q * hb - hdiv
    rw [combineLoop, dif_neg h, Nat.gcd_comm, Nat.gcd_rec, Nat.gcd_comm]
    exact ih hb hmod

/-- A combination combines the numbers to their greatest common divisor. -/
theorem combine_spec (a b : Int) : (combine a b).Combines a b ∧ (combine a b).gcd = a.gcd b := by
  unfold combine Combination.Combines
  split_ifs with h ha hb
  · rw [h.1, h.2]
    exact ⟨rfl, rfl⟩
  · rw [ha, Int.gcd_zero_left]
    exact ⟨by simp, rfl⟩
  · rw [hb, Int.gcd_zero_right]
    exact ⟨by simp, rfl⟩
  · obtain ⟨hc, hg⟩ := combineLoop_spec (a := a.natAbs) (b := b.natAbs) (j := a.natAbs)
      (k := b.natAbs) (x := 1) (r := 0) (y := 0) (s := 1) (by simp) (by simp)
    refine ⟨?_, hg⟩
    unfold Combination.Combines at hc
    rw [← Int.sign_mul_self_eq_natAbs, ← Int.sign_mul_self_eq_natAbs] at hc
    linear_combination hc

/-- An inverse is missing for a common divisor with the modulus, and modulo one. -/
theorem inverse?_eq_none_iff {n m : Int} : inverse? n m = none ↔ n.gcd m ≠ 1 ∨ m = 1 := by
  unfold inverse? gcd
  split_ifs with h
  · simp only [true_iff]
    omega
  · simp only [false_iff]
    omega

/-- The inverse has a product with the number that leaves one. -/
theorem inverse?_spec {n m k : Int} (hm : 0 < m) (h : inverse? n m = some k) :
    0 ≤ k ∧ k < m ∧ m ∣ n * k - 1 := by
  unfold inverse? at h
  split_ifs at h with hn
  cases h
  obtain ⟨hc, hg⟩ := combine_spec n m
  refine ⟨Int.emod_nonneg _ hm.ne', Int.emod_lt_of_pos _ hm, ?_⟩
  have hone : (combine n m).x * n + (combine n m).y * m = 1 := by
    have hgcd : gcd n m = 1 := not_not.mp (not_or.mp hn).2
    exact hc.trans (hg.trans hgcd)
  refine ⟨-(combine n m).y - n * ((combine n m).x / m), ?_⟩
  rw [Int.emod_def]
  linear_combination hone

private theorem pow_emod (a m : Int) (k : Nat) : (a * a % m) ^ k ≡ a ^ (2 * k) [ZMOD m] := by
  rw [pow_mul, sq]
  exact (Int.mod_modEq ..).pow k

/-- Powers by squaring are the residues of powers. -/
theorem power_eq (a : Int) (n : Nat) (m : Int) : power a n m = a ^ n % m := by
  induction a, n using power.induct m with
  | case1 a => rw [power, dif_pos rfl, pow_zero]
  | case2 a n h hodd ih =>
    have hn : a ^ n = a ^ (2 * (n / 2)) * a := by
      rw [← pow_succ]
      congr 1
      omega
    rw [power, dif_neg h, if_pos hodd, ih, hn]
    exact ((Int.mod_modEq ..).trans (pow_emod a m _)).mul_right a
  | case3 a n h heven ih =>
    have hn : n = 2 * (n / 2) := by omega
    rw [power, dif_neg h, if_neg heven, ih]
    nth_rewrite 2 [hn]
    exact pow_emod a m _

end Reference

/-- The textbook forms are sound. -/
theorem References.textbook_sound : textbook.Sound where
  combine_gcd a b := (Reference.combine_spec a b).2
  gcd_eq _ _ := rfl
  lcm_eq _ _ := rfl
  inverse?_eq_none_iff _ := Reference.inverse?_eq_none_iff
  inverse?_spec hm h := Reference.inverse?_spec hm h
  isSolvable_iff _ _ := decide_eq_true_iff

end Aliquot
