import Mathlib.Data.List.Sort

/-!
# Sorting in parts

A page is the beginning of a sorted list, and the list is put together from parts that were sorted
and cut before. This file settles that the cuts made on the way do no harm: whoever is among the
first `k` of everything is among the first `k` of its part.

The reason is that a stable sort of two lists one after the other is the merge of the two sorted
lists (`ActivityFeed.Sorting.mergeSort_append`), and that the first `k` elements of a merge are made
of the first `k` elements of each side (`ActivityFeed.Sorting.take_merge_take_take`). Nothing here
asks the order to tell all elements apart, so ties are covered: elements that the order does not
separate stay as they came.
-/

namespace ActivityFeed

namespace Sorting

variable {α : Type} {le : α → α → Bool}

/-- The first `k` elements of a list in the order of `le`. -/
def first (le : α → α → Bool) (k : ℕ) (l : List α) : List α := (l.mergeSort le).take k

/-! ### The beginning of a merge -/

/-- The first `k` elements of a merge come from the first `k` elements of either side. -/
theorem take_merge_take_take {k i j : ℕ} (hi : k ≤ i) (hj : k ≤ j) (l r : List α) :
    ((l.take i).merge (r.take j) le).take k = (l.merge r le).take k := by
  induction k generalizing i j l r with
  | zero => rw [List.take_zero, List.take_zero]
  | succ k ih =>
    -- both cuts leave the first element, so both merges begin with the same one
    obtain ⟨i, rfl⟩ : ∃ i', i = i' + 1 := ⟨i - 1, by omega⟩
    obtain ⟨j, rfl⟩ : ∃ j', j = j' + 1 := ⟨j - 1, by omega⟩
    match l, r with
    | [], r =>
      rw [List.take_nil, List.nil_merge, List.nil_merge, List.take_take, Nat.min_eq_left hj]
    | x :: l, [] =>
      rw [List.take_nil, List.merge_right, List.merge_right, List.take_take, Nat.min_eq_left hi]
    | x :: l, y :: r =>
      rw [List.take_succ_cons, List.take_succ_cons, List.cons_merge_cons, List.cons_merge_cons]
      split
      · rw [List.take_succ_cons, List.take_succ_cons, ← List.take_succ_cons (a := y),
          ih (by omega) (by omega)]
      · rw [List.take_succ_cons, List.take_succ_cons, ← List.take_succ_cons (a := x),
          ih (by omega) (by omega)]

/-! ### A sort of two lists is a merge of two sorts -/

section Stable

variable (trans : ∀ a b c, le a b → le b c → le a c) (total : ∀ a b, (le a b || le b a) = true)

include trans total

omit trans total in
/-- An element is inserted between those that it does not come before and those that it does. -/
theorem orderedInsert_append {a : α} {l₁ l₂ : List α} (hbefore : ∀ b ∈ l₁, le a b = false)
    (hafter : ∀ b ∈ l₂, le a b = true) :
    (l₁ ++ l₂).orderedInsert (fun x y => le x y = true) a = l₁ ++ a :: l₂ := by
  induction l₁ with
  | nil =>
    cases l₂ with
    | nil => rfl
    | cons b l₂ =>
      rw [List.nil_append, List.nil_append, List.orderedInsert_cons,
        if_pos (hafter b List.mem_cons_self)]
  | cons b l₁ ih =>
    have hb : ¬le a b = true := by simpa using hbefore b List.mem_cons_self
    rw [List.cons_append, List.cons_append, List.orderedInsert_cons, if_neg hb,
      ih fun c hc => hbefore c (List.mem_cons_of_mem b hc)]

/-- The place of the first element among the others, when they are sorted. -/
theorem exists_mergeSort_cons (a : α) (l : List α) :
    ∃ l₁ l₂, (a :: l).mergeSort le = l₁ ++ a :: l₂ ∧ l.mergeSort le = l₁ ++ l₂ ∧
      (∀ b ∈ l₁, le a b = false) ∧ ∀ b ∈ l₂, le a b = true := by
  obtain ⟨l₁, l₂, hcons, hl, hbefore⟩ := List.mergeSort_cons trans total a l
  have hsorted : (l₁ ++ a :: l₂).Pairwise (le · ·) := hcons ▸ List.pairwise_mergeSort trans total _
  exact ⟨l₁, l₂, hcons, hl, by simpa using hbefore,
    (List.pairwise_cons.mp (List.pairwise_append.mp hsorted).2.1).1⟩

/-- Sorting with one element more in front inserts that element, before all that it ties with. -/
theorem mergeSort_cons_eq_orderedInsert (a : α) (l : List α) :
    (a :: l).mergeSort le = (l.mergeSort le).orderedInsert (fun x y => le x y = true) a := by
  obtain ⟨l₁, l₂, hcons, hl, hbefore, hafter⟩ := exists_mergeSort_cons trans total a l
  rw [hcons, hl, orderedInsert_append hbefore hafter]

/-- **Choosing and sorting may change places.** -/
theorem filter_mergeSort (p : α → Bool) (l : List α) :
    (l.mergeSort le).filter p = (l.filter p).mergeSort le := by
  induction l with
  | nil => rw [List.mergeSort_nil, List.filter_nil, List.mergeSort_nil]
  | cons a l ih =>
    obtain ⟨l₁, l₂, hcons, hl, hbefore, hafter⟩ := exists_mergeSort_cons trans total a l
    rw [hl, List.filter_append] at ih
    rw [hcons, List.filter_append, List.filter_cons, List.filter_cons]
    split
    · rw [mergeSort_cons_eq_orderedInsert trans total, ← ih]
      exact (orderedInsert_append (fun b hb => hbefore b (List.mem_of_mem_filter hb))
        fun b hb => hafter b (List.mem_of_mem_filter hb)).symm
    · exact ih

/-- Sorting is inserting all elements, from the last to the first. -/
theorem mergeSort_eq_insertionSort (l : List α) :
    l.mergeSort le = l.insertionSort (fun x y => le x y = true) := by
  induction l with
  | nil => rw [List.mergeSort_nil, List.insertionSort_nil]
  | cons a l ih =>
    rw [mergeSort_cons_eq_orderedInsert trans total, ih, List.insertionSort_cons]

/-- Inserting into a merge is inserting into its left side. -/
theorem orderedInsert_merge (a : α) (l r : List α) :
    (l.merge r le).orderedInsert (fun x y => le x y = true) a =
      (l.orderedInsert (fun x y => le x y = true) a).merge r le := by
  induction l generalizing r with
  | nil =>
    rw [List.nil_merge, List.orderedInsert_nil]
    induction r with
    | nil => rw [List.merge_right, List.orderedInsert_nil]
    | cons y r ih =>
      rw [List.cons_merge_cons, List.orderedInsert_cons, ih, List.nil_merge]
  | cons x l ihl =>
    induction r with
    | nil => rw [List.merge_right, List.merge_right]
    | cons y r ihr =>
      -- the merge begins with `x` or with `y`, and `a` goes in front of that or behind it
      by_cases hxy : le x y = true
      · rw [List.cons_merge_cons_pos _ _ _ hxy]
        by_cases hax : le a x = true
        · rw [List.orderedInsert_cons, if_pos hax, List.orderedInsert_cons, if_pos hax,
            List.cons_merge_cons_pos _ _ _ (trans a x y hax hxy),
            List.cons_merge_cons_pos _ _ _ hxy]
        · rw [List.orderedInsert_cons, if_neg hax, List.orderedInsert_cons, if_neg hax,
            List.cons_merge_cons_pos _ _ _ hxy, ihl]
      · rw [List.cons_merge_cons_neg _ _ _ hxy]
        by_cases hay : le a y = true
        · -- `a` goes in front of `x` as well, since `y` would
          have hyx : le y x = true := by simpa [hxy] using total x y
          rw [List.orderedInsert_cons, if_pos hay,
            List.orderedInsert_cons, if_pos (trans a y x hay hyx),
            List.cons_merge_cons_pos _ _ _ hay, List.cons_merge_cons_neg _ _ _ hxy]
        · rw [List.orderedInsert_cons, if_neg hay, ihr, List.orderedInsert_cons]
          split
          · rw [List.cons_merge_cons_neg _ _ _ hay]
          · rw [List.cons_merge_cons_neg _ _ _ hxy]

/-- **A sort of two lists is a merge of two sorts.** -/
theorem mergeSort_append (l r : List α) :
    (l ++ r).mergeSort le = (l.mergeSort le).merge (r.mergeSort le) le := by
  induction l with
  | nil => rw [List.nil_append, List.mergeSort_nil, List.nil_merge]
  | cons a l ih =>
    rw [List.cons_append, mergeSort_cons_eq_orderedInsert trans total, ih,
      orderedInsert_merge trans total, ← mergeSort_cons_eq_orderedInsert trans total]

/-! ### Cuts -/

/-- What was cut from a sorted list is sorted already. -/
theorem mergeSort_first (k : ℕ) (l : List α) : (first le k l).mergeSort le = first le k l :=
  List.mergeSort_of_pairwise
    ((List.pairwise_mergeSort trans total l).sublist (List.take_sublist _ _))

/-- Cutting twice is cutting once. -/
theorem first_first (k : ℕ) (l : List α) : first le k (first le k l) = first le k l := by
  rw [first, mergeSort_first trans total, first, List.take_take, Nat.min_self]

/-- **A cut in either of two parts does no harm to the cut of the whole.** -/
theorem first_append (k : ℕ) (l r : List α) :
    first le k (first le k l ++ first le k r) = first le k (l ++ r) := by
  rw [first, mergeSort_append trans total, mergeSort_first trans total,
    mergeSort_first trans total, first, first, take_merge_take_take le_rfl le_rfl, first,
    mergeSort_append trans total]

/-- A cut of one part in the middle does no harm to the cut of the whole. -/
theorem first_append_first_append (k : ℕ) (l m r : List α) :
    first le k (l ++ (first le k m ++ r)) = first le k (l ++ (m ++ r)) := by
  have hright : first le k (first le k m ++ r) = first le k (m ++ r) := by
    rw [← first_append trans total, first_first trans total, first_append trans total]
  rw [← first_append trans total, hright, first_append trans total]

/-- A cut in every part does no harm to the cut of the whole. -/
theorem first_flatten (k : ℕ) (ls : List (List α)) :
    first le k (ls.map (first le k)).flatten = first le k ls.flatten := by
  induction ls with
  | nil => rfl
  | cons l ls ih =>
    rw [List.map_cons, List.flatten_cons, List.flatten_cons, ← first_append trans total,
      first_first trans total, ih, first_append trans total]

end Stable

end Sorting

end ActivityFeed
