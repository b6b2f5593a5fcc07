import Aliquot.Proofs.Comparison
import Aliquot.Proofs.Simulation.Operands

/-!
# Operators on operands of one bounded type

An operator on values of a bounded type and unbounded integers that the type represents works in
that type, whichever of its operands is the unbounded integer. Comparisons compare the integers.
-/

namespace Aliquot

open CheckedInt

namespace Number

variable {r : Rep}

/-- A representation accepts its own values as they are. -/
theorem operand?_self (x : r.Carrier) : operand? r ⟨r, x⟩ = some (.ok (.own x)) :=
  dif_pos rfl

/-- A bounded representation accepts unbounded integers, which it converts. -/
theorem operand?_unbounded (hb : r ≠ .unbounded) (k : Int) :
    operand? r (unbounded k) = some (Operand.own <$> (CheckedInt.ofInt k : Checked r.Carrier)) := by
  have h : ¬(unbounded k).rep = r := Ne.symm hb
  rw [operand?, dif_neg h]
  cases r <;> rfl

/-- Unbounded integers accept no value of a bounded representation. -/
theorem operand?_of_unbounded (hb : r ≠ .unbounded) (x : r.Carrier) :
    operand? .unbounded ⟨r, x⟩ = none := by
  rw [operand?, dif_neg hb]
  cases r with
  | unbounded => exact absurd rfl hb
  | fixed f => rfl
  | signMagnitude w => rfl

variable {x y : r.Carrier} {n : Number}

/-- An operator works in the representation of the first operand when that accepts the second. -/
theorem operateLeft?_eq (op : BinaryOp) {operand : Checked (Operand r)}
    (h : operand? r n = some operand) :
    operateLeft? op ⟨r, x⟩ n = some (Number.mk r <$> (operand >>= applySecond op r x)) := by
  rw [operateLeft?, h]
  cases operand with
  | error e => rfl
  | ok y =>
    change some (applySecond op r x y >>= fun z ↦ Except.ok (Number.mk r z)) =
      some (Number.mk r <$> applySecond op r x y)
    cases applySecond op r x y <;> rfl

/-- An operator works in the representation of the second operand when that accepts the first. -/
theorem operateRight?_eq (op : BinaryOp) {operand : Checked (Operand r)}
    (h : operand? r n = some operand) :
    operateRight? op n ⟨r, y⟩ =
      some (Number.mk r <$> (operand >>= fun x ↦ applyFirst op r x y)) := by
  rw [operateRight?, h]
  cases operand with
  | error e => rfl
  | ok x =>
    change some (applyFirst op r x y >>= fun z ↦ Except.ok (Number.mk r z)) =
      some (Number.mk r <$> applyFirst op r x y)
    cases applyFirst op r x y <;> rfl

/-- A second operand that has a value of the representation is combined as that value. -/
theorem operateLeft?_of_operand? (op : BinaryOp) (h : operand? r n = some (.ok (.own y))) :
    operateLeft? op ⟨r, x⟩ n = some (Number.mk r <$> op r x y) :=
  operateLeft?_eq op h

/-- A first operand that has a value of the representation is combined as that value. -/
theorem operateRight?_of_operand? (op : BinaryOp) (h : operand? r n = some (.ok (.own x))) :
    operateRight? op n ⟨r, y⟩ = some (Number.mk r <$> op r x y) :=
  operateRight?_eq op h

/-- The optional product is taken in the representation of the first number. -/
theorem mulLeft?_of_operand? (h : operand? r n = some (.ok (.own y))) :
    mulLeft? ⟨r, x⟩ n = some (.ok ((CheckedInt.mul? x y).map (Number.mk r))) := by
  rw [mulLeft?, h]
  rfl

end Number

namespace Value

variable {r : Rep} {u v : Value} {j k : Int}

/-- A bounded representation accepts a value that stands for an integer in it. -/
theorem StandsFor.exists_operand (hb : r ≠ .unbounded) (h : StandsFor r k v) :
    ∃ (n : Number) (y : r.Carrier), v = number n ∧ Reads y k ∧
      Number.operand? r n = some (.ok (.own y)) := by
  cases h with
  | @own y hy => exact ⟨_, y, rfl, hy, Number.operand?_self y⟩
  | plain hk =>
    obtain ⟨y, hy⟩ := Rep.exists_ofInt_of_represents hk
    refine ⟨.unbounded k, y, rfl, toInt_of_ofInt_eq_ok hy, ?_⟩
    rw [Number.operand?_unbounded hb, hy]
    rfl

/-- An operator that works in a representation on numbers gives what the operation gives. -/
theorem arithmetic_of_operate? {symbol : String} {op : Number.BinaryOp} {m n : Number}
    {result : Checked r.Carrier} (h : Number.operate? op m n = some (Number.mk r <$> result)) :
    arithmetic symbol op m n = (ofCarrier r <$> result).mapError .failure := by
  rw [arithmetic, h]
  cases result <;> rfl

/-- An operator on two values of one representation works in it. -/
theorem arithmetic_self (symbol : String) (op : Number.BinaryOp) (x y : r.Carrier) :
    arithmetic symbol op ⟨r, x⟩ ⟨r, y⟩ = (ofCarrier r <$> op r x y).mapError .failure := by
  apply arithmetic_of_operate?
  rw [Number.operate?, Number.operateLeft?_of_operand? op (Number.operand?_self y)]
  rfl

/-- Of two operands the first one is a value of the representation, or it is an unbounded integer
and the second one is such a value. -/
theorem Operands.own_or_plain (hb : r ≠ .unbounded) (h : Operands r [u, v] [j, k]) :
    (∃ x : r.Carrier, u = ofCarrier r x ∧ Reads x j ∧ StandsFor r k v) ∨
      (u = int j ∧ r.Represents j ∧ ∃ y : r.Carrier, v = ofCarrier r y ∧ Reads y k) := by
  obtain ⟨hst, z, hz⟩ := h
  simp only [List.forall₂_cons, List.Forall₂.nil, and_true] at hst
  obtain ⟨hu, hv⟩ := hst
  cases hu with
  | @own x hx => exact .inl ⟨x, rfl, hx, hv⟩
  | plain hj =>
    cases hv with
    | @own y hy => exact .inr ⟨rfl, hj, y, rfl, hy⟩
    | plain _ =>
      -- neither operand would be of the bounded type
      simp only [List.mem_cons, List.not_mem_nil, or_false] at hz
      rcases hz with hz | hz <;> cases hz <;> exact absurd rfl hb

/-- Operands that stand for integers are numbers, and an operator on them works in the bounded
representation on values with these integers. -/
theorem Operands.exists_arithmetic (hb : r ≠ .unbounded) (h : Operands r [u, v] [j, k]) :
    ∃ (m n : Number) (x y : r.Carrier), u = number m ∧ v = number n ∧ Reads x j ∧ Reads y k ∧
      ∀ symbol op, arithmetic symbol op m n = (ofCarrier r <$> op r x y).mapError .failure := by
  obtain ⟨x, rfl, hx, hv⟩ | ⟨rfl, hj, y, rfl, hy⟩ := h.own_or_plain hb
  · obtain ⟨n, y, rfl, hy, hn⟩ := hv.exists_operand hb
    refine ⟨⟨r, x⟩, n, x, y, rfl, rfl, hx, hy, fun symbol op ↦ arithmetic_of_operate? ?_⟩
    rw [Number.operate?, Number.operateLeft?_of_operand? op hn]
    rfl
  · obtain ⟨m, x, hm, hx, hn⟩ := (StandsFor.plain hj).exists_operand hb
    cases hm
    refine ⟨.unbounded j, ⟨r, y⟩, x, y, rfl, rfl, hx, hy,
      fun symbol op ↦ arithmetic_of_operate? ?_⟩
    have hleft : Number.operateLeft? op (.unbounded j) ⟨r, y⟩ = none := by
      unfold Number.operateLeft?
      exact congrArg (Option.map _) (Number.operand?_of_unbounded hb y)
    rw [Number.operate?, hleft]
    exact Number.operateRight?_of_operand? op hn

/-- Operands that stand for integers are comparable numbers with these integers. -/
theorem Operands.exists_comparable (hb : r ≠ .unbounded) (h : Operands r [u, v] [j, k]) :
    ∃ m n : Number, u = number m ∧ v = number n ∧ m.toInt = j ∧ n.toInt = k ∧
      Number.Comparable m.rep n.rep = true := by
  obtain ⟨x, rfl, hx, hv⟩ | ⟨rfl, -, y, rfl, hy⟩ := h.own_or_plain hb
  · cases hv with
    | @own y hy => exact ⟨⟨r, x⟩, ⟨r, y⟩, rfl, rfl, hx, hy, Number.comparable_self r⟩
    | plain _ => exact ⟨⟨r, x⟩, .unbounded k, rfl, rfl, hx, rfl, by cases r <;> rfl⟩
  · exact ⟨.unbounded j, ⟨r, y⟩, rfl, rfl, rfl, hy, rfl⟩

section Methods

variable {x y : r.Carrier} {n : Number}

/-- A division by a number that the dividend accepts works in the representation of the dividend. -/
theorem divide_of_operand? (op : Number.BinaryOp)
    (h : Number.operand? r n = some (.ok (.own y))) :
    divide op ⟨r, x⟩ (number n) = (ofCarrier r <$> op r x y).mapError .failure := by
  unfold divide
  dsimp only
  rw [Number.operateLeft?_of_operand? op h]
  cases op r x y <;> rfl

/-- The optional product by a number that the first factor accepts is taken in the representation of
that factor. -/
theorem mul?_of_operand? (hb : r ≠ .unbounded) (h : Number.operand? r n = some (.ok (.own y))) :
    mul? (ofCarrier r x) (number n) = .ok ((CheckedInt.mul? x y).map (ofCarrier r)) := by
  have hmap : ((CheckedInt.mul? x y).map (Number.mk r)).map number =
      (CheckedInt.mul? x y).map (ofCarrier r) := Option.map_map ..
  rw [← hmap]
  cases r with
  | unbounded => exact absurd rfl hb
  | fixed f =>
    unfold ofCarrier mul?
    dsimp only
    rw [Number.mulLeft?_of_operand? h]
    rfl
  | signMagnitude w =>
    unfold ofCarrier mul?
    dsimp only
    rw [Number.mulLeft?_of_operand? h]
    rfl

/-- The distance to a number that a signed magnitude accepts is the distance of two signed
magnitudes. -/
theorem absSub_of_operand? {w : Width} {x y : SignMagnitude w}
    (h : Number.operand? (.signMagnitude w) n = some (.ok (.own y))) :
    absSub (ofCarrier (.signMagnitude w) x) (number n) =
      (ofCarrier (.signMagnitude w) <$> x.absSub y).mapError .failure := by
  unfold ofCarrier absSub Number.absSub?
  dsimp only
  rw [Number.operateLeft?_of_operand? (x := x) .distance h, Number.BinaryOp.distance]
  cases x.absSub y <;> rfl

end Methods

end Value

end Aliquot
