import Aliquot.Number.Order

/-!
# Comparison of numbers as integers

A type that does not decline a comparison compares the integers, so it does not matter which of two
types is asked first: the outcome is the comparison of the integers if one of the types knows the
other, and none otherwise.
-/

namespace Aliquot

namespace Rep

/-- Whether values of the first type are compared by it with values of the second one. -/
def knows (r s : Rep) : Bool := s.isA r || s == unbounded

/-- A type counts among its own values. -/
theorem isA_self (r : Rep) : r.isA r = true := by
  cases r with
  | unbounded => rfl
  | fixed f => cases f <;> simp [isA]
  | signMagnitude w => simp [isA]

/-- A type knows its own values. -/
theorem knows_self (r : Rep) : r.knows r = true := by
  rw [knows, isA_self, Bool.true_or]

end Rep

namespace Number

/-- A representation is comparable with itself. -/
theorem comparable_self (r : Rep) : Comparable r r = true := by
  cases r with
  | unbounded => rfl
  | fixed f => cases f <;> simp [Comparable]
  | signMagnitude w => simp [Comparable]

/-- Numbers are comparable when one of their types knows the other. -/
theorem comparable_eq (r s : Rep) : Comparable r s = (r.knows s || s.knows r) := by
  by_cases h : r = s
  · rw [h, comparable_self, Rep.knows_self, Bool.true_or]
  have hrs : (r == s) = false := beq_false_of_ne h
  have hsr : (s == r) = false := beq_false_of_ne (Ne.symm h)
  cases r with
  | unbounded => cases s <;> rfl
  | fixed f =>
    cases s with
    | unbounded => rfl
    | fixed g => cases f <;> cases g <;> simp [Comparable, Rep.knows, Rep.isA, hrs, hsr]
    | signMagnitude w => cases f <;> rfl
  | signMagnitude v =>
    cases s with
    | unbounded => rfl
    | fixed g => cases g <;> rfl
    | signMagnitude w => simp [Comparable, Rep.knows, Rep.isA, hrs, hsr]

/-- An unbounded integer is comparable with every number. -/
theorem comparable_unbounded (r : Rep) :
    Comparable .unbounded r = true ∧ Comparable r .unbounded = true := by
  cases r with
  | unbounded => exact ⟨rfl, rfl⟩
  | fixed f => cases f <;> exact ⟨rfl, rfl⟩
  | signMagnitude w => exact ⟨rfl, rfl⟩

variable {x y : Number}

/-- A type answers the tests of the values that it knows, and the answer is that for the integers:
those of signed magnitudes follow from their parts. -/
theorem ownTest?_eq {ofInts : Int → Int → Bool}
    {ofParts : (w : Width) → SignMagnitude w → SignMagnitude w → Bool}
    (h : ∀ w x y, ofParts w x y = ofInts x.toInt y.toInt) (x y : Number) :
    ownTest? ofInts ofParts x y =
      if x.rep.knows y.rep then some (ofInts x.toInt y.toInt) else none := by
  obtain ⟨r, x⟩ := x
  obtain ⟨s, y⟩ := y
  cases r with
  | unbounded => cases s <;> rfl
  | fixed f =>
    cases s with
    | unbounded => rfl
    | fixed g =>
      rw [ownTest?, Rep.knows, show (Rep.fixed g == .unbounded) = false from rfl, Bool.or_false]
      rfl
    | signMagnitude w => cases f <;> rfl
  | signMagnitude v =>
    cases s with
    | unbounded => rfl
    | fixed g => rfl
    | signMagnitude w =>
      by_cases hw : w = v
      · subst hw
        rw [ownTest?, dif_pos rfl, Rep.knows_self, if_pos rfl, h]
        rfl
      · simp [ownTest?, Rep.knows, Rep.isA, hw]

/-- The order in which two types are asked does not matter when their answers agree. -/
theorem consult_eq (x y : Number) (b : Bool) :
    consult x y (if x.rep.knows y.rep then some b else none)
      (if y.rep.knows x.rep then some b else none) =
        if Comparable x.rep y.rep then some b else none := by
  unfold consult
  rw [comparable_eq]
  cases x.rep.knows y.rep <;> cases y.rep.knows x.rep <;> simp

/-- Numbers are equal when they are comparable and their integers are equal. -/
theorem eq_eq (x y : Number) :
    x.eq y = (Comparable x.rep y.rep && decide (x.toInt = y.toInt)) := by
  have hparts (w : Width) (x y : SignMagnitude w) : x.eq y = (x.toInt == y.toInt) := by
    rw [Bool.eq_iff_iff, SignMagnitude.eq_iff, beq_iff_eq]
  rw [eq, ownEq?, ownTest?_eq hparts, ownTest?_eq hparts, BEq.comm (a := y.toInt), consult_eq]
  cases Comparable x.rep y.rep <;> rfl

/-- Numbers are unequal when they are not equal. -/
theorem ne_eq_not_eq (x y : Number) : x.ne y = !x.eq y := by
  rw [ne, eq]
  unfold consult
  split
  · cases y.ownEq? x <;> cases x.ownEq? y <;> rfl
  · cases y.ownEq? x <;> cases x.ownEq? y <;> rfl

/-- A type compares the integers of the values that it knows. -/
theorem own?_eq (c : Comparison) (x y : Number) :
    x.own? c y = if x.rep.knows y.rep then some (c.ofInts x.toInt y.toInt) else none := by
  have hparts (w : Width) (x y : SignMagnitude w) : x.lt y = decide (x.toInt < y.toInt) := by
    rw [Bool.eq_iff_iff, SignMagnitude.lt_iff, decide_eq_true_iff]
  have hlt : x.ownLt? y = if x.rep.knows y.rep then some (decide (x.toInt < y.toInt)) else none :=
    ownTest?_eq hparts x y
  by_cases h : x.rep.knows y.rep
  · have hc : Comparable x.rep y.rep = true := by rw [comparable_eq, h, Bool.true_or]
    rw [if_pos h] at hlt ⊢
    cases c with
    | less => exact hlt
    | lessEqual =>
      rw [own?, hlt, Option.map_some, eq_eq, hc, Bool.true_and, ← Bool.decide_or]
      exact congrArg some (decide_eq_decide.mpr Int.le_iff_lt_or_eq.symm)
    | greater =>
      rw [own?, hlt, Option.map_some, ne_eq_not_eq, eq_eq, hc, Bool.true_and, ← decide_not,
        ← decide_not, ← Bool.decide_and]
      exact congrArg some (decide_eq_decide.mpr (by omega))
    | greaterEqual =>
      rw [own?, hlt, Option.map_some, ← decide_not]
      exact congrArg some (decide_eq_decide.mpr Int.not_lt)
  · rw [if_neg h] at hlt ⊢
    cases c <;> rw [own?, hlt] <;> rfl

/-- A comparison is that of the integers, or declined by both types. -/
theorem compare?_eq (c : Comparison) (x y : Number) :
    x.compare? c y =
      if Comparable x.rep y.rep then some (c.ofInts x.toInt y.toInt) else none := by
  rw [compare?, own?_eq, own?_eq, Comparison.converse_ofInts, consult_eq]

/-- Comparable numbers are equal when their integers are. -/
theorem eq_of_comparable (h : Comparable x.rep y.rep = true) :
    x.eq y = decide (x.toInt = y.toInt) := by
  rw [eq_eq, h, Bool.true_and]

/-- Comparable numbers compare as their integers. -/
theorem compare?_of_comparable (c : Comparison) (h : Comparable x.rep y.rep = true) :
    x.compare? c y = some (c.ofInts x.toInt y.toInt) := by
  rw [compare?_eq, if_pos h]

end Number

end Aliquot
