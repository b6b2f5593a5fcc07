import Aliquot.Proofs.Report.Bounded
import Aliquot.Proofs.Simulation.Calls

/-!
# Conversion between types

A number is converted to a bounded type by way of its integer, so the target alone decides whether
there is a result. Signed magnitudes are the exception: they are made from the absolute value, which
is taken in the type that the number comes from. The least integer of a fixed width with a sign has
none there, and it overflows on the way to a signed magnitude that would hold it.
-/

namespace Aliquot

open CheckedInt

/-- The type is one of signed magnitudes. -/
def Rep.IsSignMagnitude (r : Rep) : Prop := ∃ w, r = .signMagnitude w

/-- The integers of an unsigned type are not negative. -/
theorem Rep.toInt_nonneg_of_isUnsigned {r : Rep} (h : r.isUnsigned = true) (x : r.Carrier) :
    0 ≤ toInt x := by
  cases r with
  | unbounded => cases h
  | fixed f =>
    have hs : f.isSigned = false := by simpa [isUnsigned] using h
    exact ((Format.represents_iff_of_not_isSigned hs).mp x.represents_val).1
  | signMagnitude w => cases h

/-- The least integer of a fixed width is one of its integers. -/
theorem Rep.IsFixedLeast.represents {r : Rep} {k : Int} (h : r.IsFixedLeast k) :
    r.Represents k := by
  obtain ⟨f, rfl, rfl⟩ := h
  exact ⟨Int.le_refl _, Int.le_trans f.represents_zero.1 f.represents_zero.2⟩

namespace Number

variable {r : Rep} {x : Number}

/-- The number is the least one of a fixed width with a sign, which holds no absolute value of
it. -/
def LacksAbs (x : Number) : Prop := x.rep.isUnsigned = false ∧ x.rep.IsFixedLeast x.toInt

/-- Every other number has its absolute value in its own type. -/
theorem represents_natAbs_iff : x.rep.Represents x.toInt.natAbs ↔ ¬x.LacksAbs := by
  by_cases hs : x.rep.isUnsigned = true
  · have hnonneg := Rep.toInt_nonneg_of_isUnsigned hs x.val
    have habs : (x.toInt.natAbs : Int) = x.toInt := Int.natAbs_of_nonneg hnonneg
    have hrep : x.rep.Represents x.toInt.natAbs := by
      rw [habs]
      exact Rep.represents_toInt x.val
    exact iff_of_true hrep fun h ↦ absurd hs (Bool.eq_false_iff.mp h.1)
  · rw [Bool.not_eq_true] at hs
    rw [LacksAbs, and_iff_right hs]
    exact Rep.represents_natAbs_iff hs x.val

/-- The absolute value is the value for the distance from zero. -/
theorem abs_eq_ofInt (x : Number) : x.abs = ofInt x.rep x.toInt.natAbs :=
  congrArg (Number.mk x.rep <$> ·) (CheckedInt.abs_eq x.val)

/-- A conversion is the one of the integer, but for signed magnitudes of a number without an
absolute value. -/
theorem convert_eq_ofInt (h : ¬(r.IsSignMagnitude ∧ x.LacksAbs)) :
    x.convert r = ofInt r x.toInt := by
  cases r with
  | unbounded => rfl
  | fixed f => rfl
  | signMagnitude w =>
    have habs : ¬x.LacksAbs := fun hl ↦ h ⟨⟨w, rfl⟩, hl⟩
    obtain ⟨y, hy⟩ := Rep.exists_ofInt_of_represents (represents_natAbs_iff.mpr habs)
    apply Value.convert_signMagnitude (y := ⟨x.rep, y⟩)
    rw [abs_eq_ofInt, ofInt, hy]
    rfl

/-- A signed magnitude of such a number is not made, and the overflow names its distance from
zero. -/
theorem convert_of_lacksAbs (w : Width) (h : x.LacksAbs) :
    ∃ (j : Int) (typeName : String),
      x.convert (.signMagnitude w) = .error (.outOfRange j typeName) ∧
        j.natAbs = x.toInt.natAbs := by
  have hrep : ¬x.rep.Represents x.toInt.natAbs := fun hrep ↦ represents_natAbs_iff.mp hrep h
  obtain ⟨j, typeName, hofInt, hj⟩ := Rep.exists_ofInt_eq_outOfRange hrep
  refine ⟨j, typeName, ?_, hj⟩
  rw [convert, abs_eq_ofInt, ofInt, hofInt]
  rfl

end Number

namespace Value

variable {r : Rep} {x : Number}

/-- A value is converted as the number that it is. -/
theorem convert_number (hb : r ≠ .unbounded) (x : Number) :
    convert (.number r) (number x) = (number <$> x.convert r).mapError .failure := by
  rw [convert]
  · cases x.convert r <;> rfl
  · exact hb

/-- Where the conversion is the one of the integer, it gives a value of the type. -/
theorem convert_eq_map_ofInt (hb : r ≠ .unbounded) (h : ¬(r.IsSignMagnitude ∧ x.LacksAbs)) :
    convert (.number r) (number x) =
      (ofCarrier r <$> (ofInt x.toInt : Checked r.Carrier)).mapError .failure := by
  rw [convert_number hb, Number.convert_eq_ofInt h, Number.ofInt]
  cases (ofInt x.toInt : Checked r.Carrier) <;> rfl

/-- It returns every integer that the type represents. -/
theorem convert_returns (hb : r ≠ .unbounded) (h : ¬(r.IsSignMagnitude ∧ x.LacksAbs))
    (hrep : r.Represents x.toInt) : Returns r (convert (.number r) (number x)) x.toInt := by
  obtain ⟨z, hz⟩ := Rep.exists_ofInt_of_represents hrep
  refine ⟨z, ?_, toInt_of_ofInt_eq_ok hz⟩
  rw [convert_eq_map_ofInt hb h, hz]
  rfl

/-- A number without an absolute value is not converted to a signed magnitude, whichever integers
that holds. -/
theorem convert_stopsAs_of_lacksAbs (hm : r.IsSignMagnitude) (h : x.LacksAbs) :
    StopsAs (convert (.number r) (number x)) (Fault.overflowKind x.toInt) := by
  obtain ⟨w, rfl⟩ := hm
  obtain ⟨j, typeName, hconvert, hj⟩ := Number.convert_of_lacksAbs w h
  have hb := Rep.signMagnitude_ne_unbounded w
  rw [convert_number hb, hconvert, ← Fault.overflowKind_congr hj,
    ← Fault.kind_reported_outOfRange j typeName]
  exact ⟨_, rfl, rfl⟩

/-- An integer that the type does not represent stops the conversion, whichever way it takes. -/
theorem convert_stopsAs (hb : r ≠ .unbounded) (hrep : ¬r.Represents x.toInt) :
    StopsAs (convert (.number r) (number x)) (Fault.overflowKind x.toInt) := by
  by_cases h : r.IsSignMagnitude ∧ x.LacksAbs
  · exact convert_stopsAs_of_lacksAbs h.1 h.2
  · rw [convert_eq_map_ofInt hb h]
    exact Rep.stopsAs_of_not_represents hrep (ofCarrier r)

/-- Converting the number to the type keeps its integer, overflows where the type does not represent
that, and loses nothing: converted back to its own bounded type a result is the number again. -/
structure ConvertsFaithfully (r : Rep) (x : Number) : Prop where
  value : r.Represents x.toInt → Returns r (convert (.number r) (number x)) x.toInt
  overflow : ¬r.Represents x.toInt →
    StopsAs (convert (.number r) (number x)) (.failure .overflow)
  back : ∀ v, convert (.number r) (number x) = .ok v → x.rep ≠ .unbounded →
    convert (.number x.rep) v = .ok (number x)

/-- The number has no absolute value in its type and is one of the signed magnitudes of the other
type, which are made from absolute values. -/
def MissesMagnitude (r : Rep) (x : Number) : Prop :=
  r.IsSignMagnitude ∧ x.LacksAbs ∧ r.Represents x.toInt

/-- A number that was converted goes back to its type when the way back is the one of the
integer. -/
theorem convert_back {z : r.Carrier} (hb : x.rep ≠ .unbounded)
    (h : ¬MissesMagnitude x.rep ⟨r, z⟩) (hz : toInt z = x.toInt) :
    convert (.number x.rep) (ofCarrier r z) = .ok (number x) := by
  have hrep : x.rep.Represents (toInt z) := by
    rw [hz]
    exact Rep.represents_toInt x.val
  have hway : ¬(x.rep.IsSignMagnitude ∧ (⟨r, z⟩ : Number).LacksAbs) :=
    fun hl ↦ h ⟨hl.1, hl.2, hrep⟩
  rw [ofCarrier, convert_eq_map_ofInt hb hway]
  change (ofCarrier x.rep <$> (ofInt (toInt z) : Checked x.rep.Carrier)).mapError _ = _
  rw [hz, Number.toInt, CheckedInt.ofInt_toInt]
  rfl

/-- Whether a value has an absolute value is a matter of its integer. -/
theorem lacksAbs_iff_of_toInt {z : r.Carrier} (hz : toInt z = x.toInt) :
    (⟨r, z⟩ : Number).LacksAbs ↔ r.isUnsigned = false ∧ r.IsFixedLeast x.toInt := by
  rw [Number.LacksAbs, Number.toInt, hz]

namespace ConvertsFaithfully

/-- No integer of the type is missed on the way there. -/
theorem not_missesMagnitude (h : ConvertsFaithfully r x) : ¬MissesMagnitude r x := by
  rintro ⟨hm, hl, hrep⟩
  obtain ⟨z, hz, -⟩ := h.value hrep
  have hstop := convert_stopsAs_of_lacksAbs hm hl
  rw [hz] at hstop
  exact not_stopsAs_ok hstop

/-- No signed magnitude becomes the least integer of a fixed width with a sign. -/
theorem not_isFixedLeast (h : ConvertsFaithfully r x) :
    ¬(x.rep.IsSignMagnitude ∧ r.isUnsigned = false ∧ r.IsFixedLeast x.toInt) := by
  rintro ⟨hm, hleast⟩
  obtain ⟨z, hz, hread⟩ := h.value hleast.2.represents
  have hbounded : x.rep ≠ .unbounded := by
    obtain ⟨w, hw⟩ := hm
    rw [hw]
    exact Rep.signMagnitude_ne_unbounded w
  have hstop := convert_stopsAs_of_lacksAbs hm ((lacksAbs_iff_of_toInt hread).mpr hleast)
  rw [← ofCarrier, h.back _ hz hbounded] at hstop
  exact not_stopsAs_ok hstop

/-- What overflows can be named. -/
theorem isLong_eq_false (hb : r ≠ .unbounded) (h : ConvertsFaithfully r x) :
    Text.isLong x.toInt = false := by
  by_cases hrep : r.Represents x.toInt
  · exact Rep.isLong_eq_false_of_represents hb hrep
  · have hkind := (convert_stopsAs hb hrep).kind_eq (h.overflow hrep)
    by_contra hlong
    rw [Fault.overflowKind, if_pos (Bool.not_eq_false _ ▸ hlong)] at hkind
    cases hkind

end ConvertsFaithfully

/-- The least integer of a fixed width with a sign is all that comes between a number and its signed
magnitude, on the way there or back. Apart from it the conversion is faithful to every integer that
can be written. -/
theorem convertsFaithfully_iff (hb : r ≠ .unbounded) :
    ConvertsFaithfully r x ↔
      ¬MissesMagnitude r x ∧
        ¬(x.rep.IsSignMagnitude ∧ r.isUnsigned = false ∧ r.IsFixedLeast x.toInt) ∧
          Text.isLong x.toInt = false := by
  constructor
  · intro h
    exact ⟨h.not_missesMagnitude, h.not_isFixedLeast, h.isLong_eq_false hb⟩
  · rintro ⟨hmiss, hleast, hlong⟩
    have hkind : Fault.overflowKind x.toInt = .failure .overflow := by
      rw [Fault.overflowKind, hlong]
      rfl
    have hvalue (hrep : r.Represents x.toInt) :
        Returns r (convert (.number r) (number x)) x.toInt :=
      convert_returns hb (fun h ↦ hmiss ⟨h.1, h.2, hrep⟩) hrep
    refine ⟨hvalue, fun hrep ↦ hkind ▸ convert_stopsAs hb hrep, ?_⟩
    intro v hv hbounded
    by_cases hrep : r.Represents x.toInt
    · obtain ⟨z, hz, hread⟩ := hvalue hrep
      cases hv.symm.trans hz
      apply convert_back hbounded ?_ hread
      rintro ⟨hm, hl, -⟩
      exact hleast ⟨hm, (lacksAbs_iff_of_toInt hread).mp hl⟩
    · have hstop := convert_stopsAs hb hrep
      rw [hv] at hstop
      exact absurd hstop not_stopsAs_ok

/-- The eight-bit integer -127 becomes a signed magnitude and is itself again after that. -/
theorem convertsFaithfully_int8 :
    let r := Rep.signMagnitude .w8
    let x : Number := ⟨.fixed (.signed .w8), ⟨-127, by decide, by decide⟩⟩
    r ≠ .unbounded ∧ ConvertsFaithfully r x := by
  intro r x
  have hb : r ≠ .unbounded := by decide
  refine ⟨hb, (convertsFaithfully_iff hb).mpr ⟨?_, ?_, ?_⟩⟩
  · rintro ⟨-, ⟨-, hl⟩, -⟩
    exact absurd (Rep.isFixedLeast_fixed.mp hl) (by decide)
  · rintro ⟨⟨w, hw⟩, -⟩
    cases hw
  · exact Text.isLong_eq_false_of_natAbs_le
      (Nat.le_trans (by decide : (127 : Nat) ≤ twoPow 7) (twoPow_le_twoPow (by decide)))

/-- Eight bits beside a sign hold -128, and the integer -128 of eight bits overflows on the way
there. -/
theorem convert_int8_least_overflows :
    let r := Rep.signMagnitude .w8
    let x : Number := ⟨.fixed (.signed .w8), ⟨-128, by decide, by decide⟩⟩
    r.Represents x.toInt ∧ StopsAs (convert (.number r) (number x)) (.failure .overflow) ∧
      ¬ConvertsFaithfully r x := by
  intro r x
  have hrep : r.Represents x.toInt :=
    (by decide : ((-128 : Int).natAbs : Int) ≤ (Format.unsigned .w8).max)
  have hl : x.LacksAbs := ⟨rfl, Rep.isFixedLeast_fixed.mpr (by decide)⟩
  have hkind : Fault.overflowKind x.toInt = .failure .overflow :=
    Fault.overflowKind_of_natAbs_le
      (Nat.le_trans (by decide : (128 : Nat) ≤ twoPow 7) (twoPow_le_twoPow (by decide)))
  refine ⟨hrep, hkind ▸ convert_stopsAs_of_lacksAbs ⟨.w8, rfl⟩ hl, fun h ↦ ?_⟩
  exact ((convertsFaithfully_iff (by decide)).mp h).1 ⟨⟨.w8, rfl⟩, hl, hrep⟩

end Value

end Aliquot
