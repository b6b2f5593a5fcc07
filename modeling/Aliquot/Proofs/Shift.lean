import Aliquot.Proofs.Simulation.Operands

/-!
# Shifts of bounded types

A value of a bounded type is moved by a count of any type, and what it becomes is of its own type.
A move up makes all places before it drops any, so a count beyond what can be held is a fault on
every value but zero. What can be held is a parameter; with `2 ^ 65` places more than that there are
also too many to count.
-/

namespace Aliquot

open CheckedInt

variable {r : Rep}

/-- No value of a bounded type has more binary digits than the widest type has bits. -/
theorem Rep.bitLength_toInt_le (hb : r ≠ .unbounded) (x : r.Carrier) :
    bitLength (toInt x) ≤ 128 := by
  have hfixed {f : Format} (y : Fixed f) : y.val.natAbs < twoPow 128 :=
    Nat.lt_of_lt_of_le (Format.natAbs_lt_twoPow_bits y.represents_val)
      (twoPow_le_twoPow f.bits_le)
  rw [bitLength_le_iff]
  cases r with
  | unbounded => exact absurd rfl hb
  | fixed f => exact hfixed x
  | signMagnitude w =>
    have hx : (x.toInt.natAbs : Int) = x.magnitude.val := SignMagnitude.natAbs_toInt x
    have := hfixed x.magnitude
    change x.toInt.natAbs < twoPow 128
    omega

namespace Value

variable {limit n : Nat} {v : Value}

/-- A number of any type that stands for `n` counts the places of a shift. -/
def Counts (n : Nat) (v : Value) : Prop := ∃ c : Number, v = number c ∧ c.toInt = n

/-- The unbounded integer `n` counts `n` places. -/
theorem counts_int (n : Nat) : Counts n (int n) := ⟨.unbounded n, rfl, rfl⟩

/-- A count that is not negative is taken as it is. -/
theorem Counts.shiftCount_eq (h : Counts n v) : shiftCount v = .ok n := by
  obtain ⟨c, rfl, hc⟩ := h
  have hn : ¬(n : Int) < 0 := by omega
  unfold shiftCount
  simp only [show index (number c) = .ok (n : Int) from congrArg Except.ok hc, bind, Except.bind,
    if_neg hn]
  rfl

section MoveUp

variable {x : Number}

/-- Zero is moved up by any count, and every number of up to 128 digits by one that can be held. -/
theorem shiftUp_of_small (hx : bitLength x.toInt ≤ 128)
    (hn : x.toInt = 0 ∨ n < min limit (2 ^ 65)) : shiftUp limit x n = .ok (x.shl n) := by
  unfold shiftUp
  by_cases hz : x.toInt = 0
  · exact if_pos hz
  have hn := lt_min_iff.mp (hn.resolve_left hz)
  have hgroups : ¬maxGroups < groupsAfter (bitLength x.toInt) n := by
    have := hn.2
    unfold maxGroups groupsAfter groupSize
    omega
  rw [if_neg hz, if_neg hgroups, if_neg (Nat.not_le.mpr hn.1)]

/-- A number that is not moved up stops for the memory or for the count of its places. -/
theorem shiftUp_cases (limit n : Nat) (x : Number) :
    shiftUp limit x n = .ok (x.shl n) ∨ shiftUp limit x n = .error .outOfMemory ∨
      shiftUp limit x n = .error .tooManyDigits := by
  unfold shiftUp
  split
  · exact .inl rfl
  split
  · exact .inr (.inr rfl)
  split
  · exact .inr (.inl rfl)
  · exact .inl rfl

/-- A number other than zero is not moved up by more places than can be held. -/
theorem shiftUp_of_large (hz : x.toInt ≠ 0) (hn : limit ≤ n) :
    shiftUp limit x n = .error .outOfMemory ∨ shiftUp limit x n = .error .tooManyDigits := by
  unfold shiftUp
  rw [if_neg hz, if_pos hn]
  split
  · exact .inr rfl
  · exact .inl rfl

end MoveUp

section Bounded

variable (hb : r ≠ .unbounded) (x : r.Carrier)
include hb

private theorem shift_eq {symbol : String} {op : Number → Nat → Answer Number}
    (h : Counts n v) : shift symbol op (ofCarrier r x) v = number <$> op ⟨r, x⟩ n := by
  have hcount : shift symbol op (ofCarrier r x) v =
      (do return number (← op ⟨r, x⟩ (← shiftCount v))) := by
    cases r with
    | unbounded => exact absurd rfl hb
    | fixed f => rfl
    | signMagnitude w => rfl
  rw [hcount, h.shiftCount_eq]
  rfl

/-- A value is moved down in its own type. -/
theorem shr_eq (h : Counts n v) :
    shr (ofCarrier r x) v = .ok (ofCarrier r (CheckedInt.shr x n)) :=
  shift_eq hb x h

/-- A move up is that of the number. -/
theorem shlWithin_eq (h : Counts n v) :
    shlWithin limit (ofCarrier r x) v = number <$> shiftUp limit ⟨r, x⟩ n :=
  shift_eq hb x h

/-- Zero is moved up by any count, and every value by one that can be held. -/
theorem shlWithin_of_small (h : Counts n v) (hn : toInt x = 0 ∨ n < min limit (2 ^ 65)) :
    shlWithin limit (ofCarrier r x) v = .ok (ofCarrier r (CheckedInt.shl x n)) := by
  rw [shlWithin_eq hb x h, shiftUp_of_small (x := ⟨r, x⟩) (Rep.bitLength_toInt_le hb x) hn]
  rfl

/-- A value other than zero is not moved up by more places than can be held. -/
theorem shlWithin_of_large (h : Counts n v) (hz : toInt x ≠ 0) (hn : limit ≤ n) :
    shlWithin limit (ofCarrier r x) v = .error .outOfMemory ∨
      shlWithin limit (ofCarrier r x) v = .error .tooManyDigits := by
  rw [shlWithin_eq hb x h]
  obtain hf | hf := shiftUp_of_large (x := ⟨r, x⟩) hz hn
  · rw [hf]
    exact .inl rfl
  · rw [hf]
    exact .inr rfl

/-- A value is moved up in its own type, unless it is not zero and the places are more than can be
held or counted. -/
theorem shlWithin_ok_or_fault (h : Counts n v) :
    shlWithin limit (ofCarrier r x) v = .ok (ofCarrier r (CheckedInt.shl x n)) ∨
      toInt x ≠ 0 ∧ min limit (2 ^ 65) ≤ n ∧
        (shlWithin limit (ofCarrier r x) v = .error .outOfMemory ∨
          shlWithin limit (ofCarrier r x) v = .error .tooManyDigits) := by
  by_cases hn : toInt x = 0 ∨ n < min limit (2 ^ 65)
  · exact .inl (shlWithin_of_small hb x h hn)
  · obtain ⟨hz, hn⟩ := not_or.mp hn
    rw [shlWithin_eq hb x h]
    rcases shiftUp_cases limit n ⟨r, x⟩ with hok | hmemory | hdigits
    · rw [hok]
      exact .inl rfl
    · rw [hmemory]
      exact .inr ⟨hz, Nat.not_lt.mp hn, .inl rfl⟩
    · rw [hdigits]
      exact .inr ⟨hz, Nat.not_lt.mp hn, .inr rfl⟩

end Bounded

end Value

end Aliquot
