import Aliquot.Proofs.Comparison
import Aliquot.Proofs.StableSort
import Aliquot.Value.Order

/-!
# Coherence of equality, order and fingerprints

Whatever the types of two numbers, all six comparisons agree: they are those of the integers, or the
numbers are unequal and have no order. Equal numbers have one fingerprint, and a list of numbers of
one type and unbounded integers has all its comparisons, so that sorting it never fails.
-/

namespace Aliquot

/-- The number is an unbounded integer or a value of the given type. -/
def Number.IsPlainOr (r : Rep) (x : Number) : Prop := x.rep = .unbounded ∨ x.rep = r

namespace Value

open BinaryInsertion

variable {x y : Number}

/-- Comparable numbers have every comparison of their integers. -/
theorem compare_of_comparable (c : Comparison)
    (h : Number.Comparable x.rep y.rep = true) :
    compare c (number x) (number y) = .ok (c.ofInts x.toInt y.toInt) := by
  have hc : holds? c (number x) (number y) = _ := Number.compare?_of_comparable c h
  rw [compare, hc]

/-- Other numbers have no comparison that depends on an order. -/
theorem compare_of_not_comparable (c : Comparison)
    (h : Number.Comparable x.rep y.rep = false) :
    compare c (number x) (number y) = .error (.noOrder c.symbol x.typeName y.typeName) := by
  have hc : holds? c (number x) (number y) = none := by
    change x.compare? c y = none
    rw [Number.compare?_eq, h]
    rfl
  rw [compare, hc]
  rfl

/-- Equal numbers have the same integer, which decides their fingerprint. -/
theorem sameFingerprint_of_eq (h : eq (number x) (number y) = true) :
    sameFingerprint (number x) (number y) = true := by
  have hint : x.toInt = y.toInt := by
    rw [eq, Number.eq_eq, Bool.and_eq_true, decide_eq_true_iff] at h
    exact h.2
  simp [sameFingerprint, fingerprint, hint]

/-- Two numbers are comparable when each of them is an unbounded integer or of one bounded type. -/
theorem comparable_of_isPlainOr {r : Rep} (hx : x.IsPlainOr r) (hy : y.IsPlainOr r) :
    Number.Comparable x.rep y.rep = true := by
  rcases hx with hx | hx
  · rw [hx]
    exact (Number.comparable_unbounded _).1
  · rcases hy with hy | hy
    · rw [hy]
      exact (Number.comparable_unbounded _).2
    · rw [hx, hy]
      exact Number.comparable_self r

/-- Such numbers have a stable sort by their integers. -/
theorem exists_sort {r : Rep} (xs : List Number) (h : ∀ x ∈ xs, x.IsPlainOr r) :
    ∃ ys, sort (xs.map number) = .ok (ys.map number) ∧ IsStableSort Number.toInt xs ys := by
  have hlt (x y : { x : Number // x.IsPlainOr r }) :
      compare .less (number x.val) (number y.val) = .ok (decide (x.val.toInt < y.val.toInt)) :=
    compare_of_comparable .less (comparable_of_isPlainOr x.property y.property)
  obtain ⟨ys, hsort, hys⟩ := exists_sort_map hlt (xs.attachWith (·.IsPlainOr r) h)
  refine ⟨ys.map Subtype.val, ?_, ?_⟩
  · rw [List.map_map, ← List.attachWith_map_val h (f := number)]
    exact hsort
  · have := hys.map
    rwa [List.attachWith_map_subtype_val] at this

/-- Numbers compare as their integers, whichever stands first, if they have one type, if one of them
is an unbounded integer, or if both have a fixed width and one of them the default format; all
others are unequal and have no order. Equal numbers have the same fingerprint. A list of numbers of
one type and unbounded integers is sorted into the stable sort by the integers. -/
theorem comparisons_cohere :
    (∀ x y : Number, Number.Comparable x.rep y.rep = true →
      eq (number x) (number y) = decide (x.toInt = y.toInt) ∧
      ne (number x) (number y) = decide (x.toInt ≠ y.toInt) ∧
      ∀ c, compare c (number x) (number y) = .ok (c.ofInts x.toInt y.toInt)) ∧
    (∀ x y : Number, Number.Comparable x.rep y.rep = false →
      eq (number x) (number y) = false ∧ ne (number x) (number y) = true ∧
      ∀ c, ∃ e, compare c (number x) (number y) = .error e ∧ e.kind = .type) ∧
    (∀ x y : Number, eq (number x) (number y) = true →
      sameFingerprint (number x) (number y) = true) ∧
    ∀ (r : Rep) (xs : List Number), (∀ x ∈ xs, x.IsPlainOr r) →
      ∃ ys, sort (xs.map number) = .ok (ys.map number) ∧
        ∀ zs, IsStableSort Number.toInt xs zs ↔ zs = ys := by
  refine ⟨fun x y h ↦ ?_, fun x y h ↦ ?_, fun x y ↦ sameFingerprint_of_eq, fun r xs h ↦ ?_⟩
  · have heq := Number.eq_of_comparable h
    refine ⟨heq, ?_, fun c ↦ compare_of_comparable c h⟩
    rw [ne, Number.ne_eq_not_eq, heq, decide_not]
  · have heq : x.eq y = false := by rw [Number.eq_eq, h, Bool.false_and]
    refine ⟨heq, ?_, fun c ↦ ⟨_, compare_of_not_comparable c h, rfl⟩⟩
    rw [ne, Number.ne_eq_not_eq, heq, Bool.not_false]
  · obtain ⟨ys, hsort, hys⟩ := exists_sort xs h
    exact ⟨ys, hsort, fun zs ↦ hys.iff_eq⟩

/-- A value of the default format is above one of eight bits, which has no order with a signed
magnitude and is equal to an unbounded integer; with unbounded integers it is sorted. -/
theorem comparisons_of_mixed_numbers :
    let narrow : Number := ⟨.fixed (.signed .w8), ⟨100, by decide, by decide⟩⟩
    let word : Number := ⟨.fixed .word, ⟨300, by decide, by decide⟩⟩
    let signed : Number := ⟨.signMagnitude .w8, SignMagnitude.one .w8⟩
    let mixed : List Number := [.unbounded 300, narrow, .unbounded 100]
    Number.Comparable word.rep narrow.rep = true ∧
      compare .greater (number word) (number narrow) = .ok true ∧
      Number.Comparable narrow.rep signed.rep = false ∧
      (∃ e, compare .less (number narrow) (number signed) = .error e ∧ e.kind = .type) ∧
      eq (int 100) (number narrow) = true ∧ sameFingerprint (int 100) (number narrow) = true ∧
      (∀ x ∈ mixed, x.IsPlainOr narrow.rep) ∧
      ∃ ys, sort (mixed.map number) = .ok (ys.map number) ∧
        ∀ zs, IsStableSort Number.toInt mixed zs ↔ zs = ys := by
  intro narrow word signed mixed
  obtain ⟨hcomparable, hother, hequal, hsort⟩ := comparisons_cohere
  have heq : eq (int 100) (number narrow) = true := (hcomparable (.unbounded 100) narrow rfl).1
  have hmixed : ∀ x ∈ mixed, x.IsPlainOr narrow.rep := by
    simp [mixed, Number.IsPlainOr, Number.unbounded]
  exact ⟨rfl, (hcomparable word narrow rfl).2.2 .greater, rfl, (hother narrow signed rfl).2.2 .less,
    heq, hequal (.unbounded 100) narrow heq, hmixed, hsort narrow.rep mixed hmixed⟩

end Value

end Aliquot
