import Aliquot.Proofs.Dispatch
import Aliquot.Proofs.Simulation.Diophantine
import Aliquot.Proofs.Simulation.Power

/-!
# Calls on operands of one bounded type

Every computation of the library, called on operands of one bounded type with a sign, overflows or
ends as the call on the unbounded integers does. A result is made of values of the bounded type,
each of which stands for the unbounded integer in its place.
-/

namespace Aliquot.Value

open CheckedInt

/-- A value of the representation `r` beside the unbounded integer that it stands for. -/
def Mirrors (r : Rep) (v w : Value) : Prop :=
  ∃ (x : r.Carrier) (k : Int), v = ofCarrier r x ∧ w = int k ∧ Reads x k

/-- Rows whose entries mirror each other. -/
structure RowMirrors (r : Rep) (row ints : Euclid.Row Value) : Prop where
  value : Mirrors r row.value ints.value
  coeff₁ : Mirrors r row.coeff₁ ints.coeff₁
  coeff₂ : Mirrors r row.coeff₂ ints.coeff₂

/-- Pairs whose coordinates mirror each other. -/
def PairMirrors (r : Rep) (p q : Value × Value) : Prop :=
  Mirrors r p.1 q.1 ∧ Mirrors r p.2 q.2

/-- Families whose numbers mirror each other. -/
structure FamilyMirrors (r : Rep) (s t : SolutionFamily Value) : Prop where
  x₀ : Mirrors r s.x₀ t.x₀
  y₀ : Mirrors r s.y₀ t.y₀
  stepX : Mirrors r s.stepX t.stepX
  stepY : Mirrors r s.stepY t.stepY

/-- Families with their divisors that mirror each other and whose pairs do so at every index that
the representation holds, given in it or as an unbounded integer. -/
structure SolutionMirrors (r : Rep) (s t : SolutionFamily Value × Value) : Prop where
  family : FamilyMirrors r s.1 t.1
  divisor : Mirrors r s.2 t.2
  pairAt : ∀ {i : Int} {v : Value}, StandsFor r i v →
    Follows Fault.IsOverflow (PairMirrors r) (Value.pairAt s.1 v) (Value.pairAt t.1 (int i))

/-- Each call on operands of the representation `r` overflows or ends as the call on the integers
that they stand for. -/
structure CallsFollow (r : Rep) : Prop where
  xgcd : ∀ {u v : Value} {j k : Int}, Operands r [u, v] [j, k] →
    Follows Fault.IsOverflow (RowMirrors r) (Value.xgcd u v) (Value.xgcd (int j) (int k))
  gcd : ∀ {u v : Value} {j k : Int}, Operands r [u, v] [j, k] →
    Follows Fault.IsOverflow (Mirrors r) (Value.gcd u v) (Value.gcd (int j) (int k))
  lcm : ∀ {u v : Value} {j k : Int}, Operands r [u, v] [j, k] →
    Follows Fault.IsOverflow (Mirrors r) (Value.lcm u v) (Value.lcm (int j) (int k))
  solveDiophantine : ∀ {u v w : Value} {i j k : Int}, Operands r [u, v, w] [i, j, k] →
    Follows Fault.IsOverflow (SolutionMirrors r) (Value.solveDiophantine u v w)
      (Value.solveDiophantine (int i) (int j) (int k))
  solveCongruence : ∀ {u v w : Value} {i j k : Int}, Operands r [u, v, w] [i, j, k] →
    Follows Fault.IsOverflow (List.Forall₂ (Mirrors r)) (Value.solveCongruence u v w)
      (Value.solveCongruence (int i) (int j) (int k))
  inverse : ∀ {u v : Value} {j k : Int}, Operands r [u, v] [j, k] →
    Follows Fault.IsOverflow (Mirrors r) (Value.inverse u v) (Value.inverse (int j) (int k))
  powMod : ∀ {u v w : Value} {i j k : Int}, Operands r [u, v, w] [i, j, k] →
    Follows Fault.IsOverflow (Mirrors r) (Value.powMod u v w) (Value.powMod (int i) (int j) (int k))
  topBit : ∀ {u : Value} {k : Int}, Operands r [u] [k] →
    Follows Fault.IsOverflow (Mirrors r) (Value.topBit u) (Value.topBit (int k))

variable {r : Rep}

/-- A value of the representation mirrors its integer. -/
theorem mirrors_of_reads {x : r.Carrier} {k : Int} (h : Reads x k) :
    Mirrors r (ofCarrier r x) (ofCarrier .unbounded k) :=
  ⟨x, k, rfl, rfl, h⟩

/-- A family of the representation mirrors its family of integers. -/
theorem familyMirrors_of_reads {s : SolutionFamily r.Carrier} {t : SolutionFamily Int}
    (h : s.Reads t) :
    FamilyMirrors r
      ⟨ofCarrier r s.x₀, ofCarrier r s.y₀, ofCarrier r s.stepX, ofCarrier r s.stepY⟩
      ⟨int t.x₀, int t.y₀, int t.stepX, int t.stepY⟩ :=
  ⟨mirrors_of_reads h.x₀, mirrors_of_reads h.y₀, mirrors_of_reads h.stepX,
    mirrors_of_reads h.stepY⟩

/-- A result in the representation mirrors the result on integers. -/
theorem mirrors_map {m : Checked r.Carrier} {n : Checked Int} (h : Simulates Reads m n) :
    Simulates (Mirrors r) (ofCarrier r <$> m) (ofCarrier .unbounded <$> n) :=
  h.map fun _ _ ↦ mirrors_of_reads

/-- An operation on values that mirror integers follows the operation on integers. -/
theorem arithmetic_follows (symbol : String) (op : Number.BinaryOp) {x y : r.Carrier} {j k : Int}
    (h : Simulates Reads (op r x y) (op .unbounded j k)) :
    Follows Fault.IsOverflow (Mirrors r) (arithmetic symbol op ⟨r, x⟩ ⟨r, y⟩)
      (arithmetic symbol op ⟨.unbounded, j⟩ ⟨.unbounded, k⟩) := by
  rw [arithmetic_self, arithmetic_self]
  exact (mirrors_map h).mapError fun _ ↦ Fault.isOverflow_failure

/-- A sum of mirrors follows the sum of the integers. -/
theorem add_follows {u v j k : Value} (hu : Mirrors r u j) (hv : Mirrors r v k) :
    Follows Fault.IsOverflow (Mirrors r) (add u v) (add j k) := by
  obtain ⟨x, i, rfl, rfl, hx⟩ := hu
  obtain ⟨y, l, rfl, rfl, hy⟩ := hv
  exact arithmetic_follows "+" .add (hx.add hy)

/-- A product of mirrors follows the product of the integers. -/
theorem mul_follows {u v j k : Value} (hu : Mirrors r u j) (hv : Mirrors r v k) :
    Follows Fault.IsOverflow (Mirrors r) (mul u v) (mul j k) := by
  obtain ⟨x, i, rfl, rfl, hx⟩ := hu
  obtain ⟨y, l, rfl, rfl, hy⟩ := hv
  exact arithmetic_follows "*" .mul (hx.mul hy)

/-- A number whose absolute value is found on the way becomes the signed magnitude of its
integer. -/
theorem convert_signMagnitude {w : Width} {x y : Number} (h : x.abs = .ok y) :
    x.convert (.signMagnitude w) = Number.ofInt (.signMagnitude w) x.toInt := by
  have hy : y.toInt = x.toInt.natAbs := by
    unfold Number.abs at h
    rw [CheckedInt.abs_eq] at h
    cases hz : (ofInt (toInt x.val).natAbs : Checked x.rep.Carrier) with
    | error e => rw [hz] at h; cases h
    | ok z => rw [hz] at h; cases h; exact toInt_of_ofInt_eq_ok hz
  rw [Number.convert, h]
  change (SignMagnitude.ofMagnitude w y.toInt (decide (x.toInt < 0)) >>= fun z ↦
      Except.ok (Number.mk (.signMagnitude w) z)) =
    Number.mk (.signMagnitude w) <$>
      SignMagnitude.ofMagnitude w x.toInt.natAbs (decide (x.toInt < 0))
  rw [hy]
  cases SignMagnitude.ofMagnitude w x.toInt.natAbs (decide (x.toInt < 0)) <;> rfl

/-- A value that stands for an integer converts to the value for that integer. -/
theorem StandsFor.convert_eq {i : Int} {n : Number} (h : StandsFor r i (number n)) :
    n.convert r = Number.ofInt r i := by
  obtain ⟨n', hn, hi⟩ := h.exists_number
  cases hn
  cases r with
  | unbounded => rw [← hi]; rfl
  | fixed f => rw [← hi]; rfl
  | signMagnitude w =>
    rw [← hi]
    cases h with
    | own => exact convert_signMagnitude rfl
    | plain => exact convert_signMagnitude rfl

/-- An index that the representation holds is converted to it without a failure. -/
theorem StandsFor.convert (hb : r ≠ .unbounded) {i : Int} {v : Value} (h : StandsFor r i v) :
    ∃ x : r.Carrier, convert (.number r) v = .ok (ofCarrier r x) ∧ Reads x i := by
  obtain ⟨n, rfl, -⟩ := h.exists_number
  obtain ⟨x, hx⟩ := h.exists_ofInt
  have hc : n.convert r = .ok ⟨r, x⟩ := by
    rw [h.convert_eq, Number.ofInt, hx]
    rfl
  refine ⟨x, ?_, toInt_of_ofInt_eq_ok hx⟩
  rw [Value.convert, hc]
  · rfl
  · exact hb

/-- The pairs of families that mirror each other do so at every index. -/
theorem pairAt_follows (hb : r ≠ .unbounded) {s t : SolutionFamily Value}
    (h : FamilyMirrors r s t) {i : Int} {v : Value} (hv : StandsFor r i v) :
    Follows Fault.IsOverflow (PairMirrors r) (pairAt s v) (pairAt t (int i)) := by
  obtain ⟨z, hz, hi⟩ := hv.convert hb
  have hl : countLike s.x₀ v = .ok (ofCarrier r z) := by
    obtain ⟨x, _, hx, -⟩ := h.x₀
    rw [hx]
    change (if r = .unbounded then _ else _) = _
    rw [if_neg hb, hz]
  have hr : countLike t.x₀ (int i) = .ok (int i) := by
    obtain ⟨_, k, -, hk, -⟩ := h.x₀
    rw [hk]
    rfl
  rw [pairAt, pairAt, hl, hr]
  have hm : Mirrors r (ofCarrier r z) (int i) := ⟨z, i, rfl, rfl, hi⟩
  apply (mul_follows h.stepX hm).bind
  intro _ _ _ hx
  apply (add_follows h.x₀ hx).bind
  intro _ _ _ hx
  apply (mul_follows h.stepY hm).bind
  intro _ _ _ hy
  apply (add_follows h.y₀ hy).bind
  intro _ _ _ hy
  exact .value ⟨hx, hy⟩

/-- Whatever the bounded type, whichever operands are of it and wherever they stand: a call
overflows or ends as the call on unbounded integers. -/
theorem callsFollow_of_bounded (hb : r ≠ .unbounded) (hs : r.isUnsigned = false) :
    CallsFollow r where
  xgcd h := by
    apply onPair_follows hb hs h
    intro x y hx hy
    apply (Euclid.xgcd_simulates hx hy).bind
    intro _ _ _ hr
    exact .value ⟨mirrors_of_reads hr.value, mirrors_of_reads hr.coeff₁, mirrors_of_reads hr.coeff₂⟩
  gcd h := onPair_follows hb hs h fun _ _ hx hy ↦ mirrors_map (Euclid.gcd_simulates hx hy)
  lcm h := onPair_follows hb hs h fun _ _ hx hy ↦ mirrors_map (Euclid.lcm_simulates hx hy)
  solveDiophantine h := by
    apply onTriple_follows hb hs h
    intro x y z hx hy hz
    apply (Diophantine.solve_simulates hx hy hz).bind
    intro _ _ _ hr
    have hf := familyMirrors_of_reads hr.1
    exact .value ⟨hf, mirrors_of_reads hr.2, pairAt_follows hb hf⟩
  solveCongruence h := by
    apply onTriple_follows hb hs h
    intro x y z hx hy hz
    apply (Congruence.solve_simulates hx hy hz).map
    intro us ks hus
    exact List.forall₂_map_left_iff.mpr (List.forall₂_map_right_iff.mpr
      (hus.imp fun _ _ ↦ mirrors_of_reads))
  inverse h := onPair_follows hb hs h fun _ _ hx hy ↦
    mirrors_map (Congruence.inverse_simulates hx hy)
  powMod h := onTriple_follows hb hs h fun _ _ _ hx hy hz ↦
    mirrors_map (powMod_simulates hx hy hz)
  topBit h := by
    obtain ⟨x, hx⟩ := h.exists_own
    have hst := h.standsFor
    simp only [List.forall₂_cons, List.Forall₂.nil, and_true] at hst
    rw [List.mem_singleton] at hx
    rw [← hx] at hst ⊢
    obtain ⟨n, hn, hk⟩ := hst.exists_number
    cases hn
    exact .value (mirrors_of_reads (Reads.topBit hk))

/-- In eight bits the greatest common divisor of a value and an unbounded integer follows that of
two unbounded integers. -/
theorem gcd_follows_int8 :
    let r := Rep.fixed (.signed .w8)
    let x : r.Carrier := ⟨-126, by decide, by decide⟩
    r ≠ .unbounded ∧ r.isUnsigned = false ∧ Operands r [ofCarrier r x, int 35] [-126, 35] ∧
      Follows Fault.IsOverflow (Mirrors r) (gcd (ofCarrier r x) (int 35))
        (gcd (int (-126)) (int 35)) := by
  intro r x
  have hb : r ≠ .unbounded := by decide
  have ho : Operands r [ofCarrier r x, int 35] [-126, 35] :=
    ⟨.cons (.own rfl) (.cons (.plain (by decide : Format.Represents (.signed .w8) 35)) .nil),
      x, List.mem_cons_self⟩
  exact ⟨hb, rfl, ho, (callsFollow_of_bounded hb rfl).gcd ho⟩

end Aliquot.Value
