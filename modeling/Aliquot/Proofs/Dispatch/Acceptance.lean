import Aliquot.Proofs.Dispatch
import Aliquot.Proofs.Report.Bounded

/-!
# The type in which two numbers are combined

A type accepts the numbers of the types that it knows, so two numbers are combined in the type that
knows the other one: an unbounded integer goes into every bounded type, a value of any fixed width
goes with the default format, and otherwise only values of one type go together.
-/

namespace Aliquot

open CheckedInt

namespace Rep

/-- The type in which numbers of two types are combined, if they are. -/
def combined? : Rep → Rep → Option Rep
  | .unbounded, s => some s
  | r, .unbounded => some r
  | .fixed .word, .fixed _ => some (.fixed .word)
  | .fixed _, .fixed .word => some (.fixed .word)
  | r, s => if r = s then some r else none

/-- The numbers are combined in the type that knows the other one. -/
theorem combined?_eq (r s : Rep) :
    combined? r s = if r.knows s then some r else if s.knows r then some s else none := by
  by_cases h : r = s
  · subst h
    rw [knows_self, if_pos rfl]
    cases r with
    | unbounded => rfl
    | fixed f => cases f <;> simp [combined?]
    | signMagnitude w => simp [combined?]
  · have hrs : (r == s) = false := beq_false_of_ne h
    have hsr : (s == r) = false := beq_false_of_ne (Ne.symm h)
    cases r with
    | unbounded => cases s <;> rfl
    | fixed f =>
      cases s with
      | unbounded => rfl
      | fixed g => cases f <;> cases g <;> simp_all [combined?, knows, isA]
      | signMagnitude w => cases f <;> rfl
    | signMagnitude v =>
      cases s with
      | unbounded => rfl
      | fixed g => cases g <;> rfl
      | signMagnitude w => simp_all [combined?, knows, isA]

/-- The order of the two types does not matter. -/
theorem combined?_comm (r s : Rep) : combined? r s = combined? s r := by
  by_cases h : r = s
  · rw [h]
  have hne : ¬s = r := Ne.symm h
  cases r with
  | unbounded => cases s <;> rfl
  | fixed f =>
    cases s with
    | unbounded => rfl
    | fixed g => cases f <;> cases g <;> simp_all [combined?]
    | signMagnitude w => cases f <;> rfl
  | signMagnitude v =>
    cases s with
    | unbounded => rfl
    | fixed g => cases g <;> rfl
    | signMagnitude w => simp_all [combined?]

/-- The type in which numbers are combined knows the types of both. -/
theorem knows_of_combined? {r s t : Rep} (h : combined? r s = some t) :
    t.knows r = true ∧ t.knows s = true := by
  rw [combined?_eq] at h
  split at h
  · next hk =>
    cases h
    exact ⟨knows_self r, hk⟩
  · split at h
    · next hk =>
      cases h
      exact ⟨hk, knows_self s⟩
    · cases h

/-- A bounded type decides the type in which it is combined. -/
theorem combined?_ne_unbounded {r s : Rep} (h : r ≠ .unbounded ∨ s ≠ .unbounded) :
    combined? r s ≠ some .unbounded := by
  rw [combined?_eq]
  intro hc
  split at hc
  · next hk =>
    cases hc
    cases s <;> simp_all [knows, isA]
  · next hk =>
    split at hc
    · cases hc
      simp_all [knows]
    · cases hc

/-- The type is that of a fixed width, one that has no sign or more bits than the default format. -/
def IsWiderOrUnsigned (r : Rep) : Prop :=
  ∃ f, r = .fixed f ∧ (Format.word.bits < f.bits ∨ f.isSigned = false)

end Rep

/-- A signed format represents what one with fewer bits represents. -/
theorem Format.represents_of_bits_le {f g : Format} {k : Int} (hf : f.isSigned) (hg : g.isSigned)
    (hbits : f.bits ≤ g.bits) (h : f.Represents k) : g.Represents k := by
  rw [represents_iff_of_isSigned hf] at h
  rw [represents_iff_of_isSigned hg]
  have := twoPow_le_twoPow (Nat.sub_le_sub_right hbits 1)
  omega

namespace Number

variable {r : Rep} {x y n : Number}

/-- The number is not an unbounded integer, or the type represents it. -/
def GoesInto (r : Rep) (x : Number) : Prop := x.rep = .unbounded → r.Represents x.toInt

/-- A number that goes into a bounded type has at most 128 binary digits. -/
theorem natAbs_le_of_goesInto (hb : r ≠ .unbounded) (h : x.GoesInto r) :
    x.toInt.natAbs ≤ twoPow 128 := by
  by_cases hx : x.rep = .unbounded
  · exact Rep.natAbs_le_of_represents hb (h hx)
  · exact Rep.natAbs_le_of_represents hx (Rep.represents_toInt x.val)

/-- So it is not too long to be written. -/
theorem isLong_eq_false_of_goesInto (hb : r ≠ .unbounded) (h : x.GoesInto r) :
    Text.isLong x.toInt = false :=
  Text.isLong_eq_false_of_natAbs_le
    (Nat.le_trans (natAbs_le_of_goesInto hb h) (twoPow_le_twoPow (by decide)))

/-- A fixed width represents what it knows, unless it is the default format and the other width has
no sign or more bits. -/
theorem represents_or_isWiderOrUnsigned {f : Format} (hknows : (Rep.fixed f).knows x.rep = true)
    (h : x.GoesInto (.fixed f)) :
    f.Represents x.toInt ∨ f = .word ∧ x.rep.IsWiderOrUnsigned := by
  obtain ⟨s, z⟩ := x
  cases s with
  | unbounded => exact .inl (h rfl)
  | signMagnitude w => cases f <;> simp [Rep.knows, Rep.isA] at hknows
  | fixed g =>
    have hz : g.Represents z.val := z.represents_val
    by_cases hgf : g = f
    · exact .inl (hgf ▸ hz)
    · have hf : f = .word := by
        cases f <;> simp_all [Rep.knows, Rep.isA]
      subst hf
      by_cases hwide : (Rep.fixed g).IsWiderOrUnsigned
      · exact .inr ⟨rfl, hwide⟩
      · have hbits : ¬Format.word.bits < g.bits := fun hb ↦ hwide ⟨g, rfl, .inl hb⟩
        have hsigned : g.isSigned = true := by
          rw [← Bool.not_eq_false]
          exact fun hs ↦ hwide ⟨g, rfl, .inr hs⟩
        exact .inl (Format.represents_of_bits_le hsigned rfl (Nat.not_lt.mp hbits) hz)

/-- How a bounded type takes a number that it knows. -/
inductive Takes (r : Rep) (n : Number) : Checked (Operand r) → Prop where
  /-- As the value of the type for its integer. -/
  | own {z : r.Carrier} (h : Reads z n.toInt) : Takes r n (.ok (.own z))
  /-- As its integer, which no other type than the default one does. -/
  | foreign (hr : r = .fixed .word) (hn : n.rep ≠ .unbounded) : Takes r n (.ok (.foreign n.toInt))
  /-- Not at all, when it is an unbounded integer that the type does not represent. -/
  | misfit {j : Int} {typeName : String} (h : ¬n.GoesInto r) (hj : j.natAbs = n.toInt.natAbs) :
    Takes r n (.error (.outOfRange j typeName))

/-- A bounded type takes every number that it knows, in one of these ways. -/
theorem exists_takes (hb : r ≠ .unbounded) (h : r.knows n.rep = true) :
    ∃ operand, operand? r n = some operand ∧ Takes r n operand := by
  obtain ⟨s, z⟩ := n
  by_cases hs : s = r
  · subst hs
    exact ⟨_, operand?_self z, .own rfl⟩
  by_cases hu : s = .unbounded
  · subst hu
    refine ⟨_, operand?_unbounded hb z, ?_⟩
    by_cases hrep : r.Represents z
    · obtain ⟨y, hy⟩ := Rep.exists_ofInt_of_represents hrep
      rw [hy]
      exact .own (toInt_of_ofInt_eq_ok hy)
    · obtain ⟨j, typeName, hofInt, hj⟩ := Rep.exists_ofInt_eq_outOfRange hrep
      rw [hofInt]
      exact .misfit (fun hgo ↦ hrep (hgo rfl)) hj
  · -- the type knows another bounded one, so it is the default format
    cases r with
    | unbounded => exact absurd rfl hb
    | signMagnitude w => cases s <;> simp_all [Rep.knows, Rep.isA]
    | fixed f =>
      cases s with
      | unbounded => exact absurd rfl hu
      | signMagnitude w => cases f <;> simp_all [Rep.knows, Rep.isA]
      | fixed g =>
        cases f with
        | word => exact ⟨_, by rw [operand?, dif_neg hs], .foreign rfl hu⟩
        | signed w => simp_all [Rep.knows, Rep.isA]
        | unsigned w => simp_all [Rep.knows, Rep.isA]

/-- A type takes no number that it does not know. -/
theorem operand?_of_not_knows (h : r.knows n.rep = false) : operand? r n = none := by
  obtain ⟨s, z⟩ := n
  have hs : ¬s = r := by
    rintro rfl
    simp [Rep.knows_self] at h
  rw [operand?, dif_neg hs]
  cases r with
  | unbounded => cases s <;> simp_all [Rep.knows]
  | fixed f => cases s <;> cases f <;> simp_all [Rep.knows, Rep.isA]
  | signMagnitude w => cases s <;> simp_all [Rep.knows]

end Number

end Aliquot
