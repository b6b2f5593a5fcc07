import Aliquot.BinaryInsertion
import Mathlib.Data.List.Chain
import Mathlib.Data.List.InsertIdx

/-!
# Stability of sorting by binary insertion

Where no comparison fails and each compares integer keys, the sort ends with the elements in the
order of their keys, and elements with one key in the order given. Each element is put behind all
that its key is not below, and a run is turned around only when its keys are strictly descending.
-/

namespace Aliquot.BinaryInsertion

section Specification

variable {β γ : Type} {key : β → Int} {xs ys : List β}

/-- The list `ys` has the elements of `xs` in the order of their keys, and those with one key in the
order of `xs`. -/
structure IsStableSort (key : β → Int) (xs ys : List β) : Prop where
  perm : ys.Perm xs
  sorted : ys.Pairwise fun x y ↦ key x ≤ key y
  stable : ∀ k, ys.filter (fun x ↦ decide (key x = k)) = xs.filter (fun x ↦ decide (key x = k))

/-- Sorting the images sorts the elements by the keys of the images. -/
theorem IsStableSort.map {key : γ → Int} {f : β → γ} (h : IsStableSort (fun x ↦ key (f x)) xs ys) :
    IsStableSort key (xs.map f) (ys.map f) where
  perm := h.perm.map f
  sorted := List.pairwise_map.mpr h.sorted
  stable k := by
    rw [List.filter_map, List.filter_map]
    exact congrArg (List.map f) (h.stable k)

/-- A list in ascending order is sorted as it is. -/
theorem isStableSort_self (h : ys.Pairwise fun x y ↦ key x ≤ key y) : IsStableSort key ys ys where
  perm := .refl _
  sorted := h
  stable _ := rfl

/-- A list in strictly descending order is sorted by turning it around, as no key comes twice. -/
theorem isStableSort_reverse (h : ys.Pairwise fun x y ↦ key y < key x) :
    IsStableSort key ys ys.reverse where
  perm := ys.reverse_perm
  sorted := List.pairwise_reverse.mpr (h.imp fun hlt ↦ Int.le_of_lt hlt)
  stable k := by
    rw [List.filter_reverse]
    have hk := h.filter fun x ↦ decide (key x = k)
    cases hzs : ys.filter fun x ↦ decide (key x = k) with
    | nil => rfl
    | cons x zs =>
      cases zs with
      | nil => rfl
      | cons y zs =>
        -- two elements with the key `k` would be in strictly descending order
        have hmem (z : β) (hz : z ∈ x :: y :: zs) : key z = k := by
          rw [← hzs, List.mem_filter, decide_eq_true_iff] at hz
          exact hz.2
        rw [hzs] at hk
        have hlt := List.rel_of_pairwise_cons hk List.mem_cons_self
        rw [hmem x (by simp), hmem y (by simp)] at hlt
        exact absurd hlt (Int.lt_irrefl k)

/-- A run of neighbours is sorted by turning it around if it is descending, and as it is
otherwise. -/
theorem isStableSort_of_isChain {descending : Bool}
    (h : ys.IsChain fun x y ↦ decide (key y < key x) = descending) :
    IsStableSort key ys (if descending then ys.reverse else ys) := by
  cases descending with
  | true =>
    let _ : Trans (fun x y : β ↦ key y < key x) (fun x y ↦ key y < key x)
      (fun x y ↦ key y < key x) := ⟨fun hab hbc ↦ Int.lt_trans hbc hab⟩
    exact isStableSort_reverse (List.isChain_iff_pairwise.mp (h.imp fun _ _ ↦ of_decide_eq_true))
  | false =>
    let _ : Trans (fun x y : β ↦ key x ≤ key y) (fun x y ↦ key x ≤ key y)
      (fun x y ↦ key x ≤ key y) := ⟨Int.le_trans⟩
    exact isStableSort_self (List.isChain_iff_pairwise.mp
      (h.imp fun _ _ hxy ↦ Int.not_lt.mp (of_decide_eq_false hxy)))

/-- One more element goes behind the elements that its key is not below. -/
theorem IsStableSort.insert {front back : List β} {x : β}
    (h : IsStableSort key xs (front ++ back)) (hfront : ∀ y ∈ front, key y ≤ key x)
    (hback : ∀ y ∈ back, key x < key y) :
    IsStableSort key (xs ++ [x]) (front ++ x :: back) where
  perm := by
    calc (front ++ x :: back).Perm (x :: (front ++ back)) := List.perm_middle
      _ |>.Perm (x :: xs) := h.perm.cons x
      _ |>.Perm (xs ++ [x]) := (List.perm_append_singleton x xs).symm
  sorted := by
    obtain ⟨hf, hb, hfb⟩ := List.pairwise_append.mp h.sorted
    refine List.pairwise_append.mpr
      ⟨hf, List.pairwise_cons.mpr ⟨fun y hy ↦ Int.le_of_lt (hback y hy), hb⟩, fun y hy z hz ↦ ?_⟩
    rcases List.mem_cons.mp hz with rfl | hz
    · exact hfront y hy
    · exact hfb y hy z hz
  stable k := by
    rw [List.filter_append, List.filter_append, ← h.stable, List.filter_append, List.append_assoc]
    congr 1
    by_cases hx : key x = k
    · have hnone : back.filter (fun y ↦ decide (key y = k)) = [] := by
        rw [List.filter_eq_nil_iff]
        intro y hy
        have := hback y hy
        rw [decide_eq_true_iff]
        omega
      simp [hx, hnone]
    · simp [hx]

/-- In ascending lists that agree on every key the first element of the one is in the other, so its
key is not below the first one there. -/
theorem key_le_of_filter_eq {y z : β} (hys : (y :: ys).Pairwise fun a b ↦ key a ≤ key b)
    {zs : List β} (h : ∀ k, (y :: ys).filter (fun a ↦ decide (key a = k)) =
      (z :: zs).filter fun a ↦ decide (key a = k)) : key y ≤ key z := by
  have hz : z ∈ (z :: zs).filter fun a ↦ decide (key a = key z) := by simp
  rw [← h] at hz
  rcases List.mem_cons.mp (List.mem_of_mem_filter hz) with rfl | hz
  · exact Int.le_refl _
  · exact List.rel_of_pairwise_cons hys hz

/-- Ascending lists that agree on every key are equal, by induction: they start with the same
element. -/
theorem eq_of_filter_eq {zs : List β} (hys : ys.Pairwise fun x y ↦ key x ≤ key y)
    (hzs : zs.Pairwise fun x y ↦ key x ≤ key y)
    (h : ∀ k, ys.filter (fun x ↦ decide (key x = k)) = zs.filter fun x ↦ decide (key x = k)) :
    ys = zs := by
  induction ys generalizing zs with
  | nil =>
    cases zs with
    | nil => rfl
    | cons z zs => simpa using h (key z)
  | cons y ys ih =>
    cases zs with
    | nil => simpa using h (key y)
    | cons z zs =>
      have hkey : key y = key z := Int.le_antisymm (key_le_of_filter_eq hys h)
        (key_le_of_filter_eq hzs fun k ↦ (h k).symm)
      have hhead : y = z := by
        have := h (key y)
        rw [List.filter_cons_of_pos (by simp), List.filter_cons_of_pos (by simp [hkey])] at this
        exact (List.cons.inj this).1
      subst hhead
      refine congrArg (y :: ·) (ih hys.tail hzs.tail fun k ↦ ?_)
      have := h k
      rw [List.filter_cons, List.filter_cons] at this
      split at this
      · exact (List.cons.inj this).2
      · exact this

/-- A list has one stable sort. -/
theorem IsStableSort.iff_eq (h : IsStableSort key xs ys) {zs : List β} :
    IsStableSort key xs zs ↔ zs = ys := by
  constructor
  · intro hzs
    exact eq_of_filter_eq hzs.sorted h.sorted fun k ↦ (hzs.stable k).trans (h.stable k).symm
  · rintro rfl
    exact h

end Specification

section Insertion

variable {ε α β : Type} {lt : α → α → Except ε Bool} {f : β → α} {key : β → Int}

/-- Between two bounds the search goes on in one half, on the side that the element in the middle
points to. -/
theorem place_of_lt {ys : List α} {x : α} {low high : Nat} (h : low < high ∧ high ≤ ys.length)
    (hm : low + (high - low) / 2 < ys.length) {b : Bool}
    (hb : lt x ys[low + (high - low) / 2] = .ok b) :
    place lt ys x low high =
      if b then place lt ys x low (low + (high - low) / 2)
      else place lt ys x (low + (high - low) / 2 + 1) high := by
  rw [place, dif_pos h]
  change (lt x ys[low + (high - low) / 2] >>= _) = _
  rw [hb]
  rfl

/-- An element is put in after as many elements as its place says. -/
theorem insertIdx_eq_append {xs : List β} {i : Nat} (h : i ≤ xs.length) (x : β) :
    xs.insertIdx i x = xs.take i ++ x :: xs.drop i := by
  induction xs generalizing i with
  | nil =>
    obtain rfl : i = 0 := Nat.le_zero.mp h
    rfl
  | cons y xs ih =>
    cases i with
    | zero => rfl
    | succ i =>
      rw [List.insertIdx_succ_cons, ih (Nat.le_of_succ_le_succ h)]
      rfl

-- no comparison of the images fails, and each is that of the keys
variable (hlt : ∀ x y, lt (f x) (f y) = .ok (decide (key x < key y)))
include hlt

/-- The place that the search finds divides an ascending list into the elements that `x` is not
below and those that it is below. Every step of the search keeps elements of the first kind before
the lower bound and elements of the second kind from the upper one on. -/
theorem place_map {ys : List β} (hsorted : ys.Pairwise fun x y ↦ key x ≤ key y) (x : β)
    (low high : Nat) (hle : low ≤ high) (hhigh : high ≤ ys.length)
    (hfront : ∀ i (hi : i < ys.length), i < low → key ys[i] ≤ key x)
    (hback : ∀ i (hi : i < ys.length), high ≤ i → key x < key ys[i]) :
    ∃ p ≤ ys.length, place lt (ys.map f) (f x) low high = .ok p ∧
      (∀ i (hi : i < ys.length), i < p → key ys[i] ≤ key x) ∧
      ∀ i (hi : i < ys.length), p ≤ i → key x < key ys[i] := by
  have hmono (i j : Nat) (hi : i < ys.length) (hj : j < ys.length) (hij : i ≤ j) :
      key ys[i] ≤ key ys[j] := by
    rcases Nat.eq_or_lt_of_le hij with rfl | hij
    · exact Int.le_refl _
    · exact List.pairwise_iff_getElem.mp hsorted i j hi hj hij
  induction low, high using place.induct ys with
  | case1 low high h middle hm ihl ihr =>
    have hlength : high ≤ (ys.map f).length := by rwa [List.length_map]
    have hlt' := hlt x ys[middle]
    rw [← List.getElem_map f (h := by rwa [List.length_map])] at hlt'
    rw [place_of_lt ⟨h.1, hlength⟩ (by rwa [List.length_map]) hlt']
    by_cases hx : key x < key ys[middle]
    · rw [if_pos (decide_eq_true hx)]
      apply ihl (by omega) (by omega) hfront
      intro i hi hmi
      have := hmono middle i hm hi hmi
      omega
    · rw [if_neg (by rwa [decide_eq_true_iff])]
      refine ihr (by omega) hhigh (fun i hi hmi ↦ ?_) hback
      have := hmono i middle hi hm (by omega)
      omega
  | case2 low high h =>
    refine ⟨low, by omega, ?_, hfront, fun i hi hlow ↦ hback i hi (by omega)⟩
    rw [place, dif_neg (by rwa [List.length_map])]

/-- An insertion keeps the sort stable. -/
theorem insert_map {xs ys : List β} (h : IsStableSort key xs ys) (x : β) :
    ∃ zs, insert lt (ys.map f) (f x) = .ok (zs.map f) ∧ IsStableSort key (xs ++ [x]) zs := by
  obtain ⟨p, hp, hplace, hfront, hback⟩ := place_map hlt h.sorted x 0 ys.length (Nat.zero_le _)
    (Nat.le_refl _) (fun _ _ hi ↦ absurd hi (Nat.not_lt_zero _)) (fun _ hi hle ↦ by omega)
  refine ⟨ys.insertIdx p x, ?_, ?_⟩
  · rw [insert, List.length_map, hplace, List.map_insertIdx]
    rfl
  · rw [insertIdx_eq_append hp]
    rw [← List.take_append_drop p ys] at h
    refine h.insert (fun y hy ↦ ?_) (fun y hy ↦ ?_)
    · obtain ⟨i, hi, rfl⟩ := List.mem_take_iff_getElem.mp hy
      exact hfront i (by omega) (by omega)
    · obtain ⟨i, hi, rfl⟩ := List.mem_drop_iff_getElem.mp hy
      exact hback (p + i) (by omega) (by omega)

/-- So do any number of insertions, by induction on the elements that are left. -/
theorem foldlM_insert_map {xs ys : List β} (h : IsStableSort key xs ys) (rest : List β) :
    ∃ zs, (rest.map f).foldlM (insert lt) (ys.map f) = .ok (zs.map f) ∧
      IsStableSort key (xs ++ rest) zs := by
  induction rest generalizing xs ys with
  | nil => exact ⟨ys, rfl, by rwa [List.append_nil]⟩
  | cons x rest ih =>
    obtain ⟨us, hinsert, hus⟩ := insert_map hlt h x
    obtain ⟨zs, hfold, hzs⟩ := ih hus
    refine ⟨zs, ?_, ?_⟩
    · rw [List.map_cons, List.foldlM_cons, hinsert]
      exact hfold
    · rwa [List.append_assoc] at hzs

/-- The run that is split off consists of neighbours that are all descending, or all not. -/
theorem splitRun_map (descending : Bool) (last : β) (xs : List β) :
    ∃ run rest, splitRun lt descending (f last) (xs.map f) = .ok (run.map f, rest.map f) ∧
      xs = run ++ rest ∧
      (last :: run).IsChain fun x y ↦ decide (key y < key x) = descending := by
  induction xs generalizing last with
  | nil => exact ⟨[], [], rfl, rfl, .singleton _⟩
  | cons x xs ih =>
    rw [List.map_cons, splitRun, hlt]
    change ∃ run rest, (if (decide (key x < key last) == descending) = true then _ else _) = _ ∧ _
    by_cases h : decide (key x < key last) = descending
    · obtain ⟨run, rest, hsplit, rfl, hchain⟩ := ih x
      refine ⟨x :: run, rest, ?_, rfl, .cons_cons h hchain⟩
      rw [if_pos (beq_iff_eq.mpr h), hsplit]
      rfl
    · exact ⟨[], x :: xs, if_neg (mt beq_iff_eq.mp h), rfl, .singleton _⟩

/-- The sort is stable: the run at the front is sorted first, and each further element is
inserted. -/
theorem exists_sort_map (xs : List β) :
    ∃ ys, sort lt (xs.map f) = .ok (ys.map f) ∧ IsStableSort key xs ys := by
  match xs with
  | [] => exact ⟨[], rfl, isStableSort_self .nil⟩
  | [x] => exact ⟨[x], rfl, isStableSort_self (List.pairwise_singleton _ x)⟩
  | x :: y :: xs =>
    obtain ⟨run, rest, hsplit, rfl, hchain⟩ := splitRun_map hlt (decide (key y < key x)) y xs
    have hfront := isStableSort_of_isChain (List.IsChain.cons_cons rfl hchain)
    obtain ⟨ys, hfold, hys⟩ := foldlM_insert_map hlt hfront rest
    refine ⟨ys, ?_, hys⟩
    rw [← hfold, List.map_cons, List.map_cons, sort, hlt]
    change (splitRun lt (decide (key y < key x)) (f y) ((run ++ rest).map f) >>= _) = _
    rw [hsplit, apply_ite (List.map f), List.map_reverse]
    rfl

end Insertion

end Aliquot.BinaryInsertion
