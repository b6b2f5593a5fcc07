import Aliquot.Proofs.Report.Bounded
import Aliquot.Proofs.Simulation.Operands
import Aliquot.Proofs.Text.Decimal

/-!
# Reading signed magnitudes

A minus sign and digits of any base are read as the integer that they denote, as far as the
magnitude goes, and the text of a value is read back as the value. Apart from superfluous zeros a
decimal numeral is the text of the value that it is read as.
-/

namespace Aliquot

open Text

namespace SignMagnitude

variable {w : Width} {limit? : Option Nat} {text : String} {base : Int}

/-- Reading ends with the value for the integer `k` if there is one, and with an overflow otherwise.
The overflow is reported as one unless `k` is too long to be written. -/
structure ReadsAs (answer : Answer (SignMagnitude w)) (k : Int) : Prop where
  value : (Rep.signMagnitude w).Represents k →
    ∃ x, answer = .ok x ∧ x.toInt = k ∧ x.negative = decide (k < 0)
  overflow : ¬(Rep.signMagnitude w).Represents k →
    ∃ e, answer = .error e ∧ e.IsOverflow ∧ e.reported.kind = Fault.overflowKind k

/-- A magnitude that is not representable is an overflow that names it. -/
theorem ofMagnitude_of_not_represents {m : Int} (n : Bool)
    (h : ¬(Format.unsigned w).Represents m) :
    ofMagnitude w m n = .error (.outOfRange m (Format.unsigned w).typeName) := by
  rw [ofMagnitude, Fixed.ofInt_of_not_represents h]
  rfl

/-- A representable magnitude is put beside the sign. -/
theorem exists_ofMagnitude {m : Int} (n : Bool) (h : (Format.unsigned w).Represents m) :
    ∃ x, ofMagnitude w m n = .ok x ∧ x.toInt = if n then -m else m := by
  refine ⟨ofParts ⟨m, h.1, h.2⟩ n, ?_, toInt_ofParts _ n⟩
  rw [ofMagnitude, Fixed.ofInt_of_represents h]
  rfl

/-- A magnitude with a sign is read as the integer that they denote. -/
theorem readsAs_ofMagnitude (w : Width) (m : Nat) (n : Bool) :
    ReadsAs ((ofMagnitude w m n).mapError .failure) (if n then -(m : Int) else m) := by
  have habs : (if n then -(m : Int) else m).natAbs = m := by
    split <;> omega
  have hrep : (Rep.signMagnitude w).Represents (if n then -(m : Int) else m) ↔
      (Format.unsigned w).Represents m := by
    change ((if n then -(m : Int) else m).natAbs : Int) ≤ _ ↔ _
    rw [habs]
    exact (and_iff_right (Int.natCast_nonneg m)).symm
  constructor
  · intro h
    obtain ⟨x, hx, hread⟩ := exists_ofMagnitude n (hrep.mp h)
    rw [hx]
    exact ⟨x, rfl, hread, by rw [negative_eq_decide, hread]⟩
  · intro h
    rw [ofMagnitude_of_not_represents n (fun hm ↦ h (hrep.mpr hm))]
    refine ⟨_, rfl, rfl, ?_⟩
    rw [Fault.kind_reported_outOfRange]
    exact Fault.overflowKind_congr (by rw [habs, Int.natAbs_natCast])

/-- A text in which something other than a second minus follows the sign, or the front where there
is none, is the numeral of a magnitude. -/
theorem parse_of_splitMinus {negative : Bool} {part : List Char}
    (h : splitMinus text.toList = (negative, part)) (hne : part ≠ [])
    (hhead : part.head? ≠ some '-') :
    parse w limit? text base = readInteger limit? (String.ofList part) base >>= fun m ↦
      (ofMagnitude w m negative).mapError .failure := by
  have hempty : text.isEmpty = false := by
    rw [Bool.eq_false_iff]
    intro hempty
    rw [String.isEmpty_iff.mp hempty] at h
    cases h
    exact hne rfl
  have hbad : (part.isEmpty || part.head? == some '-') = false := by
    rw [Bool.or_eq_false_iff, List.isEmpty_eq_false_iff, beq_eq_false_iff_ne]
    exact ⟨hne, hhead⟩
  rw [parse, readSigned, hempty, h]
  simp only [hbad]
  cases readInteger limit? (String.ofList part) base <;> rfl

/-- Any other text has no value. -/
theorem parse_of_badSign {negative : Bool} {part : List Char}
    (h : splitMinus text.toList = (negative, part)) (hbad : part = [] ∨ part.head? = some '-') :
    StopsAs (parse w limit? text base) .value := by
  rw [parse, readSigned]
  by_cases hempty : text.isEmpty
  · rw [if_pos hempty]
    exact ⟨_, rfl, rfl⟩
  · have hpart : (part.isEmpty || part.head? == some '-') = true := by
      rw [Bool.or_eq_true, List.isEmpty_iff, beq_iff_eq]
      exact hbad
    rw [if_neg hempty, h]
    simp only [hpart, if_true]
    exact ⟨_, rfl, rfl⟩

section Numerals

variable {base : Nat} {cs : List Char} {ds : List Nat}

/-- Digits do not begin with a minus. -/
theorem head?_ne_minus_of_spells (h : Spells base cs ds) : cs.head? ≠ some '-' := by
  intro hhead
  cases h with
  | nil => cases hhead
  | cons hc _ =>
    cases hhead
    have hsign := isSign_eq_false_of_digitValue? (digitIn?_eq_some_iff.mp hc).1
    rw [isSign_foldDigit] at hsign
    cases hsign

/-- The minus in front of digits is taken off, and nothing where there is none. -/
theorem splitMinus_of_spells (negative : Bool) (h : Spells base cs ds) :
    splitMinus (signed negative cs).toList = (negative, cs) := by
  rw [signed, String.toList_ofList]
  cases negative with
  | true => rfl
  | false =>
    rw [if_neg Bool.false_ne_true, List.nil_append]
    unfold splitMinus
    split
    · exact absurd rfl (head?_ne_minus_of_spells h)
    · rfl

/-- Digits are read as the number that they stand for, with the sign in front. -/
theorem readsAs_of_spells (negative : Bool) (hb : 2 ≤ base ∧ base ≤ 36) (h : Spells base cs ds)
    (hne : cs ≠ []) (hw : Within limit? base ds.length) :
    ReadsAs (parse w limit? (signed negative cs) base)
      (if negative then -(ofDigits base ds : Int) else ofDigits base ds) := by
  rw [parse_of_splitMinus (splitMinus_of_spells negative h) hne (head?_ne_minus_of_spells h),
    readInteger_of_spells hb h hne hw]
  exact readsAs_ofMagnitude w (ofDigits base ds) negative

/-- One and zeros spell a power of the base. -/
theorem spells_power (hb : 2 ≤ base) (n : Nat) :
    Spells base ('1' :: List.replicate n '0') (1 :: List.replicate n 0) := by
  have hone : digitIn? base '1' = some 1 := digitIn?_eq_some_iff.mpr ⟨by decide, by omega⟩
  have hzero : digitIn? base '0' = some 0 := digitIn?_eq_some_iff.mpr ⟨by decide, by omega⟩
  refine .cons hone ?_
  induction n with
  | zero => exact .nil
  | succ n ih => exact .cons hzero ih

/-- It is the power with the number of zeros as its exponent. -/
theorem ofDigits_power (base n : Nat) : ofDigits base (1 :: List.replicate n 0) = base ^ n := by
  rw [ofDigits_eq, List.reverse_cons, List.reverse_replicate, Nat.ofDigits_append,
    Nat.ofDigits_replicate_zero, List.length_replicate, Nat.ofDigits_singleton]
  omega

end Numerals

/-- No magnitude has more than 39 decimal digits. -/
theorem length_toDigits_le {n : Nat} (h : (Format.unsigned w).Represents n) :
    (Nat.toDigits 10 n).length ≤ 39 := by
  rw [Nat.length_toDigits_le_iff (by decide) (by decide)]
  have hlt := Format.natAbs_lt_twoPow_bits h
  rw [Int.natAbs_natCast] at hlt
  calc
    n < twoPow (Format.unsigned w).bits := hlt
    _ ≤ twoPow 128 := twoPow_le_twoPow (Format.bits_le _)
    _ < 10 ^ 39 := by decide

/-- The text of a value is the decimal numeral of its magnitude and its flag. -/
theorem toText_eq (x : SignMagnitude w) :
    x.toText = decimal (decide (x.toInt < 0)) x.toInt.natAbs := by
  have hdigits (n : Nat) : toString (n : Int) = String.ofList (Nat.toDigits 10 n) :=
    Nat.toString_eq_ofList_toDigits
  rw [toText, ← natAbs_toInt, hdigits, decimal, signed, String.ofList_append, ← negative_eq_decide]
  cases x.negative <;> rfl

/-- The numeral of an integer in the range is read as the value for it. -/
theorem exists_parse_decimal {k : Int} (hk : (Rep.signMagnitude w).Represents k)
    (hw : Within limit? 10 39) :
    ∃ x, parse w limit? (decimal (decide (k < 0)) k.natAbs) 10 = .ok x ∧ x.toInt = k := by
  obtain ⟨ds, hds, hvalue⟩ := exists_spells_toDigits k.natAbs
  have hlength : ds.length ≤ 39 := by
    rw [← hds.length_eq]
    exact length_toDigits_le ⟨Int.natCast_nonneg _, hk⟩
  have hw : Within limit? 10 ds.length := hw.imp_right fun h limit hl ↦ hlength.trans (h limit hl)
  have hread := readsAs_of_spells (w := w) (decide (k < 0)) (by decide) hds Nat.toDigits_ne_nil hw
  have hsigned : (if decide (k < 0) then -(k.natAbs : Int) else k.natAbs) = k := by
    simp only [decide_eq_true_iff]
    split <;> omega
  rw [hvalue, hsigned] at hread
  obtain ⟨x, hx, hxk, -⟩ := hread.value hk
  exact ⟨x, hx, hxk⟩

/-- Texts are read as positional numerals, which undoes writing: digits of a base from 2 to 36, of
any script and with zeros in front, denote what they stand for, and a minus in front turns the sign;
a value is read back from its text, and a numeral without superfluous zeros or sign is the text of
the value that it is read as. No more digits are read than the limit says, if there is one. -/
structure ReadsNumerals (w : Width) (limit? : Option Nat) : Prop where
  digits : ∀ {base : Nat} {cs : List Char} {ds : List Nat}, 2 ≤ base ∧ base ≤ 36 →
    Spells base cs ds → cs ≠ [] → Within limit? base ds.length →
      ReadsAs (parse w limit? (String.ofList cs) base) (Nat.ofDigits base ds.reverse : Nat) ∧
      ReadsAs (parse w limit? (String.ofList ('-' :: cs)) base)
        (-(Nat.ofDigits base ds.reverse : Nat))
  text : ∀ x : SignMagnitude w, Within limit? 10 39 → parse w limit? x.toText 10 = .ok x
  canonical : ∀ {text : String} {k : Int}, IsCanonical text k →
    (Rep.signMagnitude w).Represents k → Within limit? 10 39 →
      ∃ x, parse w limit? text 10 = .ok x ∧ x.toInt = k ∧ x.toText = text

/-- Signed magnitudes of every width are read in this way. -/
theorem readsNumerals (w : Width) (limit? : Option Nat) : ReadsNumerals w limit? where
  digits hb h hne hw := by
    rw [← ofDigits_eq]
    exact ⟨readsAs_of_spells false hb h hne hw, readsAs_of_spells true hb h hne hw⟩
  text x hw := by
    have hx : (Rep.signMagnitude w).Represents x.toInt :=
      Rep.represents_toInt (r := .signMagnitude w) x
    obtain ⟨y, hy, hread⟩ := exists_parse_decimal hx hw
    rw [toText_eq, hy, toInt_inj.mp hread]
  canonical hc hk hw := by
    obtain ⟨x, hx, hread⟩ := exists_parse_decimal hk hw
    refine ⟨x, ?_, hread, ?_⟩
    · rw [hc.exists_decimal, hx]
    · rw [toText_eq, hread, hc.exists_decimal]

/-- A hexadecimal numeral of 4000 digits is read, however long its integer is, and that does not
fit. No overflow is reported, as the integer is too long to be written. -/
theorem parse_long_hexadecimal :
    let cs := '1' :: List.replicate 3999 '0'
    let ds := 1 :: List.replicate 3999 0
    Spells 16 cs ds ∧ ¬(Rep.signMagnitude .w8).Represents (Nat.ofDigits 16 ds.reverse : Nat) ∧
      StopsAs (parse .w8 (some digitLimit) (String.ofList cs) 16) .value := by
  intro cs ds
  have hspells : Spells 16 cs ds := spells_power (by decide) 3999
  have hlong : isLong (ofDigits 16 ds : Nat) = true := by
    rw [ofDigits_power, show 3999 = 93 * 43 from rfl, Nat.pow_mul]
    exact isLong_pow (by decide)
  have hrep : ¬(Rep.signMagnitude .w8).Represents (ofDigits 16 ds : Nat) :=
    Rep.not_represents_of_isLong (Rep.signMagnitude_ne_unbounded .w8) hlong
  have hread : ReadsAs (parse .w8 (some digitLimit) (String.ofList cs) 16) (ofDigits 16 ds : Nat) :=
    readsAs_of_spells false (by decide) hspells nofun (.inl (by decide))
  obtain ⟨e, he, -, hkind⟩ := hread.overflow hrep
  refine ⟨hspells, ofDigits_eq 16 ds ▸ hrep, e, he, ?_⟩
  rw [hkind, Fault.overflowKind, hlong]
  rfl

/-- The letters of a hexadecimal numeral count in either case. -/
example : (parse .w8 (some digitLimit) "-fF" 16).map toInt = .ok (-255) := by
  decide

end SignMagnitude

end Aliquot
