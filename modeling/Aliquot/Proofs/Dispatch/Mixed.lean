import Aliquot.Proofs.Dispatch.Acceptance

/-!
# Operators on numbers of two types

Two numbers are combined in the type that accepts both. The result is that of the integers; there is
an overflow where the type does not represent it or one of the integers. The order of the operands
matters to the difference only.
-/

namespace Aliquot

open CheckedInt

namespace SignMagnitude

/-- The conjunction of the magnitudes of two integers, negative when both of them are. -/
def landInts (j k : Int) : Int :=
  if j < 0 ∧ k < 0 then -TwosComplement.land j.natAbs k.natAbs
  else TwosComplement.land j.natAbs k.natAbs

/-- The conjunction of signed magnitudes as an operation on integers. -/
theorem toInt_land_eq {w : Width} (x y : SignMagnitude w) :
    (x.land y).toInt = landInts x.toInt y.toInt := by
  rw [land, toInt_ofParts, Fixed.val_land, negative_eq_decide, negative_eq_decide, landInts,
    natAbs_toInt, natAbs_toInt]
  simp only [Bool.and_eq_true, decide_eq_true_iff]

/-- The order of the operands does not matter. -/
theorem landInts_comm (j k : Int) : landInts j k = landInts k j := by
  unfold landInts
  rw [TwosComplement.land_comm]
  simp only [and_comm]

end SignMagnitude

/-- The operators that combine two numbers in one of their types. -/
inductive Operator where
  | add | sub | mul | land
  deriving DecidableEq, Repr

namespace Operator

/-- The operator on operands of any kind. -/
def apply : Operator → Value → Value → Answer Value
  | add => Value.add
  | sub => Value.sub
  | mul => Value.mul
  | land => Value.land

/-- The sign that the operator is written with. -/
def symbol : Operator → String
  | add => "+"
  | sub => "-"
  | mul => "*"
  | land => "&"

/-- The operator on values of one type. -/
def op : Operator → Number.BinaryOp
  | add => .add
  | sub => .sub
  | mul => .mul
  | land => .land

/-- The operator on the integers of values of one type. The conjunction of signed magnitudes is one
of their own; every other operator is the one of the integers in all types. -/
def ofInts : Operator → Rep → Int → Int → Int
  | add, _, j, k => j + k
  | sub, _, j, k => j - k
  | mul, _, j, k => j * k
  | land, .signMagnitude _, j, k => SignMagnitude.landInts j k
  | land, _, j, k => TwosComplement.land j k

/-- The operator is the one of the integers. -/
def IsExact (o : Operator) (r : Rep) : Prop := ∀ w, ¬(o = .land ∧ r = .signMagnitude w)

variable {o : Operator} {r : Rep}

/-- On numbers an operator works in the type of one of them. -/
theorem apply_number (o : Operator) (x y : Number) :
    o.apply (.number x) (.number y) = Value.arithmetic o.symbol o.op x y := by
  cases o <;> rfl

/-- On values of one type the operator is that on their integers. -/
theorem op_eq (o : Operator) (x y : r.Carrier) :
    o.op r x y = ofInt (o.ofInts r (toInt x) (toInt y)) := by
  cases o with
  | add => exact add_eq x y
  | sub => exact sub_eq x y
  | mul => exact mul_eq x y
  | land =>
    cases r with
    | unbounded => rfl
    | fixed f => exact (Fixed.ofInt_val (x.land y)).symm
    | signMagnitude w =>
      change Except.ok (x.land y) = SignMagnitude.ofInt w (SignMagnitude.landInts x.toInt y.toInt)
      rw [← SignMagnitude.toInt_land_eq, SignMagnitude.ofInt_toInt]

/-- Only a difference depends on the order of the integers. -/
theorem ofInts_comm (ho : o ≠ .sub) (r : Rep) (j k : Int) : o.ofInts r j k = o.ofInts r k j := by
  cases o with
  | add => exact Int.add_comm j k
  | sub => exact absurd rfl ho
  | mul => exact Int.mul_comm j k
  | land =>
    cases r with
    | unbounded => exact TwosComplement.land_comm j k
    | fixed f => exact TwosComplement.land_comm j k
    | signMagnitude w => exact SignMagnitude.landInts_comm j k

/-- The results on integers of up to 128 binary digits have no more than 256 of them. -/
theorem natAbs_ofInts_le (h : o.IsExact r) {j k : Int} (hj : j.natAbs ≤ twoPow 128)
    (hk : k.natAbs ≤ twoPow 128) : (o.ofInts r j k).natAbs ≤ twoPow 256 := by
  have hgrows : 2 * twoPow 128 ≤ twoPow 256 := by
    rw [← twoPow_succ]
    exact twoPow_le_twoPow (by decide)
  cases o with
  | add =>
    change (j + k).natAbs ≤ _
    omega
  | sub =>
    change (j - k).natAbs ≤ _
    omega
  | mul =>
    change (j * k).natAbs ≤ _
    rw [Int.natAbs_mul, twoPow_add 128 128]
    exact Nat.mul_le_mul hj hk
  | land =>
    have hland : (TwosComplement.land j k).natAbs ≤ twoPow 256 := by
      have hpos := twoPow_pos 128
      have := TwosComplement.land_mem (j := j) (k := k) (n := 256) (by omega) (by omega)
      omega
    cases r with
    | unbounded => exact hland
    | fixed f => exact hland
    | signMagnitude w => exact absurd ⟨rfl, rfl⟩ (h w)

variable {x y : Number}

/-- The outcome of an operator on two numbers in the type in which they are combined. -/
inductive Computes (o : Operator) (r : Rep) (x y : Number) : Checked r.Carrier → Prop where
  /-- Both numbers go into the type, and the result is that of their integers. -/
  | result (hx : x.GoesInto r) (hy : y.GoesInto r)
      (hland : ¬o.IsExact r → ∃ z : r.Carrier, ofInt (o.ofInts r x.toInt y.toInt) = .ok z) :
      Computes o r x y (ofInt (o.ofInts r x.toInt y.toInt))
  /-- The type does not represent one of the numbers. -/
  | misfit {n : Number} (hn : n = x ∨ n = y) (h : ¬n.GoesInto r) {j : Int} {typeName : String}
      (hj : j.natAbs = n.toInt.natAbs) : Computes o r x y (.error (.outOfRange j typeName))

/-- The values of the type for both numbers give the result. -/
theorem computes_of_reads {u v : r.Carrier} (hu : Reads u x.toInt) (hv : Reads v y.toInt) :
    Computes o r x y (o.op r u v) := by
  have hop := op_eq o u v
  rw [hu, hv] at hop
  have hland (hexact : ¬o.IsExact r) :
      ∃ z : r.Carrier, ofInt (o.ofInts r x.toInt y.toInt) = .ok z := by
    rw [IsExact, not_forall_not] at hexact
    obtain ⟨w, rfl, rfl⟩ := hexact
    exact ⟨SignMagnitude.land u v, hop.symm⟩
  rw [hop]
  exact .result (fun _ ↦ hu ▸ Rep.represents_toInt u) (fun _ ↦ hv ▸ Rep.represents_toInt v) hland

/-- In the default format the operators are those of the integers. -/
private theorem isExact_word (hr : r = .fixed .word) : o.IsExact r := by
  rintro w ⟨-, hw⟩
  cases hr.symm.trans hw

/-- On unbounded integers an operator gives what a fixed width converts. -/
private theorem op_unbounded (o : Operator) (f : Format) (j k : Int) :
    o.op .unbounded j k = .ok (o.ofInts (.fixed f) j k) := by
  cases o <;> rfl

/-- The integers of values of any width give the result in the default format. -/
theorem computes_foreign (hr : r = .fixed .word) (hx : x.rep ≠ .unbounded)
    (hy : y.rep ≠ .unbounded) :
    Computes o r x y (o.op .unbounded x.toInt y.toInt >>= fun k ↦ ofInt k) := by
  have hres := Computes.result (o := o) (r := r) (fun h ↦ absurd h hx) (fun h ↦ absurd h hy)
    (fun h ↦ absurd (isExact_word hr) h)
  subst hr
  rw [op_unbounded o .word]
  exact hres

/-- The outcome in the type of the first number, which takes the second one. -/
theorem computes_left {n : Number} {u : r.Carrier} {operand : Checked (Number.Operand r)}
    (hb : r ≠ .unbounded) (h : Number.Takes r n operand) :
    Computes o r ⟨r, u⟩ n (operand >>= Number.applySecond o.op r u) := by
  cases h with
  | own hz => exact computes_of_reads rfl hz
  | foreign hr hn => exact computes_foreign hr hb hn
  | misfit h hj => exact .misfit (.inr rfl) h hj

/-- The outcome in the type of the second number, which takes the first one. -/
theorem computes_right {n : Number} {v : r.Carrier} {operand : Checked (Number.Operand r)}
    (hb : r ≠ .unbounded) (h : Number.Takes r n operand) :
    Computes o r n ⟨r, v⟩ (operand >>= fun u ↦ Number.applyFirst o.op r u v) := by
  cases h with
  | own hz => exact computes_of_reads hz rfl
  | foreign hr hn => exact computes_foreign hr hn hb
  | misfit h hj => exact .misfit (.inl rfl) h hj

/-- An operator has one of these outcomes in the type in which the numbers are combined. -/
theorem exists_computes (o : Operator) (hb : r ≠ .unbounded)
    (h : x.rep.combined? y.rep = some r) :
    ∃ m, Computes o r x y m ∧
      o.apply (.number x) (.number y) = (Value.ofCarrier r <$> m).mapError .failure := by
  rw [Rep.combined?_eq] at h
  split at h
  · next hknows =>
    cases h
    obtain ⟨operand, hoperand, htakes⟩ := Number.exists_takes hb hknows
    refine ⟨_, computes_left (u := x.val) hb htakes, ?_⟩
    rw [apply_number]
    apply Value.arithmetic_of_operate?
    rw [Number.operate?, Number.operateLeft?_eq o.op hoperand]
    rfl
  · next hforeign =>
    split at h
    · next hknows =>
      cases h
      obtain ⟨operand, hoperand, htakes⟩ := Number.exists_takes hb hknows
      refine ⟨_, computes_right (v := y.val) hb htakes, ?_⟩
      have hleft : Number.operateLeft? o.op x y = none := by
        unfold Number.operateLeft?
        rw [Number.operand?_of_not_knows (Bool.eq_false_iff.mpr hforeign)]
        rfl
      rw [apply_number]
      apply Value.arithmetic_of_operate?
      rw [Number.operate?, hleft]
      exact Number.operateRight?_eq o.op hoperand
    · cases h

/-- An operator declines numbers of types neither of which knows the other one. -/
theorem apply_of_combined?_eq_none (o : Operator) (h : x.rep.combined? y.rep = none) :
    o.apply (.number x) (.number y) = .error (.noOperator o.symbol x.typeName y.typeName) := by
  rw [Rep.combined?_eq] at h
  split at h
  · cases h
  · next hx =>
    split at h
    · cases h
    · next hy =>
      have hnone : Number.operate? o.op x y = none := by
        rw [Number.operate?, Number.operateLeft?, Number.operateRight?,
          Number.operand?_of_not_knows (Bool.eq_false_iff.mpr hx),
          Number.operand?_of_not_knows (Bool.eq_false_iff.mpr hy)]
        rfl
      rw [apply_number, Value.arithmetic, hnone]

/-- The type represents one of the numbers not, or it has no value for the exact result. -/
def Overflows (o : Operator) (r : Rep) (x y : Number) : Prop :=
  ¬x.GoesInto r ∨ ¬y.GoesInto r ∨ o.IsExact r ∧ ¬r.Represents (o.ofInts r x.toInt y.toInt)

/-- An overflow that would have to name an integer too long to be written is a fault of its
value. -/
def overflowKind (x y : Number) : FaultKind :=
  if Text.isLong x.toInt ∨ Text.isLong y.toInt then .value else .failure .overflow

/-- In the type `r` the operator gives the value for the result on integers, or it overflows. -/
structure Combines (o : Operator) (r : Rep) (x y : Number) : Prop where
  value : ¬o.Overflows r x y →
    Value.Returns r (o.apply (.number x) (.number y)) (o.ofInts r x.toInt y.toInt)
  overflow : o.Overflows r x y → StopsAs (o.apply (.number x) (.number y)) (overflowKind x y)

/-- The order of the numbers does not matter to the class of an overflow. -/
theorem overflowKind_comm (x y : Number) : overflowKind x y = overflowKind y x := by
  unfold overflowKind
  simp only [or_comm]

/-- Only a difference depends on the order of the numbers for its overflows. -/
theorem overflows_comm (ho : o ≠ .sub) : o.Overflows r x y ↔ o.Overflows r y x := by
  rw [Overflows, Overflows, ofInts_comm ho, ← or_assoc, ← or_assoc, or_comm (a := ¬x.GoesInto r)]

/-- An unbounded integer that does not fit decides the class of the overflow: the other number is of
the bounded type. -/
theorem overflowKind_of_misfit (hb : r ≠ .unbounded) (hc : x.rep.combined? y.rep = some r)
    (h : ¬x.GoesInto r) : overflowKind x y = Fault.overflowKind x.toInt := by
  rw [Number.GoesInto, Classical.not_imp] at h
  rw [h.1] at hc
  have hy : y.rep ≠ .unbounded := by
    rw [Option.some.inj (hc : some y.rep = some r)]
    exact hb
  have hlong : Text.isLong y.toInt = false :=
    Rep.isLong_eq_false_of_represents hy (Rep.represents_toInt y.val)
  rw [overflowKind, Fault.overflowKind, hlong]
  simp only [Bool.false_eq_true, or_false]

/-- Two numbers are combined in their common type. -/
theorem combines (o : Operator) (hb : r ≠ .unbounded) (hc : x.rep.combined? y.rep = some r) :
    o.Combines r x y := by
  obtain ⟨m, hm, happly⟩ := exists_computes o hb hc
  constructor
  · intro hfits
    rw [happly]
    cases hm with
    | misfit hn h hj =>
      rcases hn with rfl | rfl
      · exact absurd (.inl h) hfits
      · exact absurd (.inr (.inl h)) hfits
    | result hx hy hland =>
      have hok : ∃ z : r.Carrier, ofInt (o.ofInts r x.toInt y.toInt) = .ok z := by
        by_cases hexact : o.IsExact r
        · by_contra hno
          exact hfits (.inr (.inr ⟨hexact, fun h ↦ hno (Rep.exists_ofInt_of_represents h)⟩))
        · exact hland hexact
      obtain ⟨z, hz⟩ := hok
      rw [hz]
      exact ⟨z, rfl, toInt_of_ofInt_eq_ok hz⟩
  · intro hover
    rw [happly]
    cases hm with
    | @misfit n hn h j typeName hj =>
      have hkind : overflowKind x y = Fault.overflowKind n.toInt := by
        rcases hn with rfl | rfl
        · exact overflowKind_of_misfit hb hc h
        · rw [overflowKind_comm]
          exact overflowKind_of_misfit hb (Rep.combined?_comm _ _ ▸ hc) h
      rw [hkind, ← Fault.overflowKind_congr hj, ← Fault.kind_reported_outOfRange j typeName]
      exact ⟨_, rfl, rfl⟩
    | result hx hy hland =>
      have hkind : overflowKind x y = .failure .overflow := by
        rw [overflowKind, Number.isLong_eq_false_of_goesInto hb hx,
          Number.isLong_eq_false_of_goesInto hb hy]
        rfl
      obtain h | h | ⟨hexact, hrep⟩ := hover
      · exact absurd hx h
      · exact absurd hy h
      · have hresult := natAbs_ofInts_le hexact (Number.natAbs_le_of_goesInto hb hx)
          (Number.natAbs_le_of_goesInto hb hy)
        rw [hkind, ← Fault.overflowKind_of_natAbs_le hresult]
        exact Rep.stopsAs_of_not_represents hrep (Value.ofCarrier r)

end Operator

/-- The calls end with one value, or both stop under one class. -/
def EndsAlike {β : Type} (m n : Answer β) : Prop :=
  (∃ v, m = .ok v ∧ n = .ok v) ∨ ∃ kind, StopsAs m kind ∧ StopsAs n kind

namespace Operator

variable {o : Operator} {r : Rep} {x y : Number}

/-- A conjunction of numbers that go into their common type overflows in the default format only,
where one of them comes from a width without a sign or with more bits. -/
theorem isWiderOrUnsigned_of_overflows (hc : x.rep.combined? y.rep = some r)
    (hx : x.GoesInto r) (hy : y.GoesInto r) (h : land.Overflows r x y) :
    r = .fixed .word ∧ (x.rep.IsWiderOrUnsigned ∨ y.rep.IsWiderOrUnsigned) := by
  obtain h | h | ⟨hexact, hrep⟩ := h
  · exact absurd hx h
  · exact absurd hy h
  obtain ⟨hknowsx, hknowsy⟩ := Rep.knows_of_combined? hc
  cases r with
  | unbounded => exact absurd trivial hrep
  | signMagnitude w => exact absurd ⟨rfl, rfl⟩ (hexact w)
  | fixed f =>
    obtain hxf | ⟨rfl, hwide⟩ := Number.represents_or_isWiderOrUnsigned hknowsx hx
    · obtain hyf | ⟨rfl, hwide⟩ := Number.represents_or_isWiderOrUnsigned hknowsy hy
      · exact absurd (Fixed.represents_land hxf hyf) hrep
      · exact ⟨rfl, .inr hwide⟩
    · exact ⟨rfl, .inl hwide⟩

/-- Two numbers are combined in their common type, those without one are declined, and only a
difference depends on their order. The result of a conjunction overflows only in the default format,
for a number of a width that is unsigned or has more bits. -/
structure Dispatches (o : Operator) (x y : Number) : Prop where
  combines : ∀ r, x.rep.combined? y.rep = some r → o.Combines r x y
  conjunction : ∀ r, x.rep.combined? y.rep = some r → x.GoesInto r → y.GoesInto r →
    o = .land → o.Overflows r x y →
      r = .fixed .word ∧ (x.rep.IsWiderOrUnsigned ∨ y.rep.IsWiderOrUnsigned)
  declines : x.rep.combined? y.rep = none → StopsAs (o.apply (.number x) (.number y)) .type
  commutes : o ≠ .sub →
    EndsAlike (o.apply (.number x) (.number y)) (o.apply (.number y) (.number x))

/-- Numbers without a common type are declined in either order. -/
theorem declines_of_combined?_eq_none (o : Operator) (h : x.rep.combined? y.rep = none) :
    StopsAs (o.apply (.number x) (.number y)) .type := by
  rw [apply_of_combined?_eq_none o h]
  exact ⟨_, rfl, rfl⟩

/-- In their common type two numbers are combined alike in either order. -/
theorem endsAlike_of_combines (ho : o ≠ .sub) (h : o.Combines r x y) (h' : o.Combines r y x) :
    EndsAlike (o.apply (.number x) (.number y)) (o.apply (.number y) (.number x)) := by
  by_cases hover : o.Overflows r x y
  · have hstop := h'.overflow ((overflows_comm ho).mp hover)
    rw [overflowKind_comm y x] at hstop
    exact .inr ⟨overflowKind x y, h.overflow hover, hstop⟩
  · obtain ⟨u, hu, hread⟩ := h.value hover
    obtain ⟨v, hv, hread'⟩ := h'.value (fun hover' ↦ hover ((overflows_comm ho).mp hover'))
    rw [ofInts_comm ho] at hread'
    cases toInt_inj.mp (hread.trans hread'.symm)
    exact .inl ⟨_, hu, hv⟩

/-- The dispatch of every operator on two numbers, at least one of which is of a bounded type. -/
theorem dispatches (o : Operator) (h : x.rep ≠ .unbounded ∨ y.rep ≠ .unbounded) :
    o.Dispatches x y := by
  have hb {r : Rep} (hc : x.rep.combined? y.rep = some r) : r ≠ .unbounded := by
    rintro rfl
    exact Rep.combined?_ne_unbounded h hc
  refine ⟨fun r hc ↦ combines o (hb hc) hc, ?_, declines_of_combined?_eq_none o, fun ho ↦ ?_⟩
  · rintro r hc hx hy rfl hover
    exact isWiderOrUnsigned_of_overflows hc hx hy hover
  cases hc : x.rep.combined? y.rep with
  | none =>
    exact .inr ⟨.type, declines_of_combined?_eq_none o hc,
      declines_of_combined?_eq_none o (Rep.combined?_comm _ _ ▸ hc)⟩
  | some r =>
    exact endsAlike_of_combines ho (combines o (hb hc) hc)
      (combines o (hb hc) (Rep.combined?_comm _ _ ▸ hc))

/-- A value of eight bits and one of the default format are combined in the default format. -/
theorem dispatches_int8_word :
    let x : Number := ⟨.fixed (.signed .w8), ⟨-5, by decide, by decide⟩⟩
    let y : Number := ⟨.fixed .word, ⟨7, by decide, by decide⟩⟩
    (x.rep ≠ .unbounded ∨ y.rep ≠ .unbounded) ∧ x.rep.combined? y.rep = some (.fixed .word) ∧
      sub.Dispatches x y := by
  intro x y
  have h : x.rep ≠ .unbounded ∨ y.rep ≠ .unbounded := .inl (Rep.fixed_ne_unbounded _)
  exact ⟨h, rfl, dispatches .sub h⟩

/-- The sum of a value of eight bits and an integer that is too long to be written does not stop as
an overflow, though the integer does not fit in eight bits. -/
theorem add_int8_long :
    let x : Number := ⟨.fixed (.signed .w8), ⟨1, by decide, by decide⟩⟩
    let y : Number := .unbounded (tenPow Text.digitLimit)
    x.rep.combined? y.rep = some x.rep ∧ ¬y.GoesInto x.rep ∧
      ¬StopsAs (add.apply (.number x) (.number y)) (.failure .overflow) := by
  intro x
  have hb : x.rep ≠ .unbounded := Rep.fixed_ne_unbounded _
  have hlong := Text.isLong_tenPow
  -- the power itself stays out of the argument
  generalize (tenPow Text.digitLimit : Int) = k at hlong ⊢
  intro y
  have hy : Text.isLong y.toInt = true := hlong
  have hc : x.rep.combined? y.rep = some x.rep := rfl
  have hmisfit : ¬y.GoesInto x.rep := fun h ↦
    Bool.noConfusion (hy.symm.trans (Number.isLong_eq_false_of_goesInto hb h))
  have hstop := (combines .add hb hc).overflow (.inr (.inl hmisfit))
  rw [overflowKind, if_pos (Or.inr hy)] at hstop
  refine ⟨hc, hmisfit, fun h ↦ ?_⟩
  cases hstop.kind_eq h

end Operator

end Aliquot
