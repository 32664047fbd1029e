import ActivityFeed.Json.Compact
import ActivityFeed.Json.Typed

/-!
# Bags

An event carries texts by name that only the handler of its type understands. The names have no
order of their own, so a bag keeps its pairs sorted by name, and two bags with the same contents
are equal.

* `ActivityFeed.Bag` – names and texts;
* `ActivityFeed.Bag.get?`, `ActivityFeed.Bag.insert`, `ActivityFeed.Bag.ofList` – the operations of
  a finite map;
* `ActivityFeed.Bag.content` – the text that stands for a bag in storage;
* `ActivityFeed.Bag.ofContent?`, `ActivityFeed.Bag.ofContent` – the bag of a stored text.

Stored text may be damaged. Reading it then gives the empty bag and never a part of the bag, so one
bad row does not spoil the page on which it stands.
-/

namespace ActivityFeed

/-- Names are in strictly ascending order. -/
def Ascending (pairs : List (String × String)) : Prop := pairs.Pairwise fun p q => p.1 < q.1

/-- A finite map from names to texts. -/
@[ext]
structure Bag where
  /-- The pairs of a name and its text, sorted by name. -/
  pairs : List (String × String)
  /-- Every name stands once. -/
  ascending : Ascending pairs

instance : DecidableEq Bag := fun a b => decidable_of_iff (a.pairs = b.pairs) Bag.ext_iff.symm

instance : Repr Bag := ⟨fun b => reprPrec b.pairs⟩

namespace Bag

/-! ### Finite maps -/

/-- The bag without a name. -/
def empty : Bag := ⟨[], .nil⟩

instance : Inhabited Bag := ⟨empty⟩

/-- The number of names. -/
def size (b : Bag) : Nat := b.pairs.length

/-- The text of a name. -/
def get? (b : Bag) (key : String) : Option String := b.pairs.lookup key

/-- Puts a pair in its place among sorted pairs; a pair with the same name gives way. -/
def insertPair (key value : String) : List (String × String) → List (String × String)
  | [] => [(key, value)]
  | (k, v) :: rest =>
    if key < k then (key, value) :: (k, v) :: rest
    else if key = k then (key, value) :: rest
    else (k, v) :: insertPair key value rest

theorem fst_mem_insertPair {key value k : String} {pairs : List (String × String)}
    (h : k ∈ (insertPair key value pairs).map Prod.fst) :
    k = key ∨ k ∈ pairs.map Prod.fst := by
  induction pairs with
  | nil => simpa [insertPair] using h
  | cons p rest ih =>
    simp only [insertPair] at h
    split at h
    · simpa using h
    · split at h
      · simp only [List.map_cons, List.mem_cons] at h ⊢
        exact h.imp_right .inr
      · simp only [List.map_cons, List.mem_cons] at h ⊢
        rcases h with h | h
        · exact .inr (.inl h)
        · exact (ih h).imp_right .inr

theorem ascending_insertPair (key value : String) {pairs : List (String × String)}
    (h : Ascending pairs) : Ascending (insertPair key value pairs) := by
  induction pairs with
  | nil => exact List.pairwise_singleton _ _
  | cons p rest ih =>
    obtain ⟨hp, hr⟩ := List.pairwise_cons.1 h
    simp only [insertPair]
    split
    · rename_i hk
      refine List.pairwise_cons.2 ⟨fun q hq => ?_, h⟩
      rcases List.mem_cons.1 hq with rfl | hq
      · exact hk
      · exact String.lt_trans hk (hp q hq)
    · split
      · rename_i hk
        subst hk
        exact List.pairwise_cons.2 ⟨hp, hr⟩
      · rename_i hlt hne
        refine List.pairwise_cons.2 ⟨fun q hq => ?_, ih hr⟩
        rcases fst_mem_insertPair (List.mem_map_of_mem hq) with he | he
        · have hle : p.1 ≤ key := String.not_lt.1 hlt
          rw [he]
          exact Std.lt_of_le_of_ne hle (Ne.symm hne)
        · obtain ⟨q', hq', he⟩ := List.mem_map.1 he
          exact he ▸ hp q' hq'

/-- The bag with the given text under the given name. -/
def insert (b : Bag) (key value : String) : Bag :=
  ⟨insertPair key value b.pairs, ascending_insertPair key value b.ascending⟩

/-- The bag of a list of pairs, of which a later one replaces an earlier one of the same name. -/
def ofList (pairs : List (String × String)) : Bag :=
  pairs.foldl (fun b p => b.insert p.1 p.2) empty

/-! ### What is in a bag

A bag is known by the texts that its names have: the operations are described by them, and bags that
agree on all names are equal. -/

@[simp]
theorem get?_empty (key : String) : empty.get? key = none := rfl

theorem lookup_cons_eq_ite (k key value : String) (pairs : List (String × String)) :
    ((key, value) :: pairs).lookup k = if k = key then some value else pairs.lookup k := by
  by_cases h : k = key
  · simp [h]
  · have hb : (k == key) = false := beq_false_of_ne h
    simp [List.lookup_cons, h, hb]

theorem lookup_insertPair (key value k : String) (pairs : List (String × String)) :
    (insertPair key value pairs).lookup k = if k = key then some value else pairs.lookup k := by
  induction pairs with
  | nil => exact lookup_cons_eq_ite k key value []
  | cons p rest ih =>
    obtain ⟨k', v⟩ := p
    simp only [insertPair]
    split
    · exact lookup_cons_eq_ite k key value _
    · split
      · rename_i h
        subst h
        rw [lookup_cons_eq_ite, lookup_cons_eq_ite]
        split <;> rfl
      · rename_i h
        rw [lookup_cons_eq_ite, lookup_cons_eq_ite, ih]
        by_cases hk : k = k'
        · rw [if_pos hk, if_pos hk, if_neg fun he : k = key => h (he.symm.trans hk)]
        · rw [if_neg hk, if_neg hk]

/-- A name that was put in has its text, and no other name is touched. -/
theorem get?_insert (b : Bag) (key value k : String) :
    (b.insert key value).get? k = if k = key then some value else b.get? k :=
  lookup_insertPair key value k b.pairs

theorem get?_foldl_insert (pairs : List (String × String)) (b : Bag) (k : String) :
    (pairs.foldl (fun b p => b.insert p.1 p.2) b).get? k =
      (pairs.reverse.lookup k).or (b.get? k) := by
  induction pairs generalizing b with
  | nil => rfl
  | cons p rest ih =>
    obtain ⟨key, value⟩ := p
    rw [List.foldl_cons, ih, get?_insert, List.reverse_cons, List.lookup_append,
      lookup_cons_eq_ite, Option.or_assoc]
    split <;> rfl

/-- The last of the pairs with a name gives the name its text. -/
theorem get?_ofList (pairs : List (String × String)) (k : String) :
    (ofList pairs).get? k = pairs.reverse.lookup k := by
  rw [ofList, get?_foldl_insert, get?_empty, Option.or_none]

theorem lookup_eq_none_of_lt {k : String} {pairs : List (String × String)}
    (h : ∀ p ∈ pairs, k < p.1) : pairs.lookup k = none := by
  rw [List.lookup_eq_none_iff]
  intro p hp
  exact bne_iff_ne.2 fun he => String.lt_irrefl k (he ▸ h p hp)

/-- Where sorted pairs have a text for a name, they do not begin behind that name. -/
theorem not_lt_of_lookup_eq {k v k' v' : String} {xs ys : List (String × String)}
    (hy : Ascending ((k', v') :: ys))
    (h : ((k, v) :: xs).lookup k = ((k', v') :: ys).lookup k) : ¬k < k' := by
  intro hk
  have hlt : ∀ p ∈ (k', v') :: ys, k < p.1 := by
    intro p hp
    rcases List.mem_cons.1 hp with rfl | hp
    · exact hk
    · exact String.lt_trans hk ((List.pairwise_cons.1 hy).1 p hp)
  rw [lookup_cons_eq_ite, if_pos rfl, lookup_eq_none_of_lt hlt] at h
  cases h

theorem eq_of_lookup_eq {xs ys : List (String × String)} (hx : Ascending xs) (hy : Ascending ys)
    (h : ∀ k, xs.lookup k = ys.lookup k) : xs = ys := by
  induction xs generalizing ys with
  | nil =>
    cases ys with
    | nil => rfl
    | cons q ys =>
      have hq := h q.1
      rw [lookup_cons_eq_ite, if_pos rfl] at hq
      cases hq
  | cons p xs ih =>
    obtain ⟨k, v⟩ := p
    cases ys with
    | nil =>
      have hk := h k
      rw [lookup_cons_eq_ite, if_pos rfl] at hk
      cases hk
    | cons q ys =>
      obtain ⟨k', v'⟩ := q
      have hk : k = k' :=
        String.le_antisymm (String.not_lt.1 (not_lt_of_lookup_eq hx (h k').symm))
          (String.not_lt.1 (not_lt_of_lookup_eq hy (h k)))
      subst hk
      obtain ⟨hxk, hxs⟩ := List.pairwise_cons.1 hx
      obtain ⟨hyk, hys⟩ := List.pairwise_cons.1 hy
      have hv := h k
      rw [lookup_cons_eq_ite, if_pos rfl, lookup_cons_eq_ite, if_pos rfl] at hv
      cases hv
      refine congrArg ((k, v) :: ·) (ih hxs hys fun j => ?_)
      by_cases hj : j = k
      · subst hj
        rw [lookup_eq_none_of_lt hxk, lookup_eq_none_of_lt hyk]
      · have hj' := h j
        rwa [lookup_cons_eq_ite, if_neg hj, lookup_cons_eq_ite, if_neg hj] at hj'

/-- Two bags with the same contents are equal. -/
theorem ext_get? {a b : Bag} (h : ∀ k, a.get? k = b.get? k) : a = b :=
  Bag.ext (eq_of_lookup_eq a.ascending b.ascending h)

/-! ### Storage -/

/-- The text that stands for the bag in storage: a JSON object without blanks, sorted by name. -/
def content (b : Bag) : String := String.ofList (Json.textMapText b.pairs)

/-- The bag that a stored text stands for. -/
def ofContent? (s : String) : Except Json.Fault Bag :=
  (Json.readString Json.readTextMap s).map ofList

/-- The text stands for no bag. -/
def isDamaged (s : String) : Bool := !(ofContent? s).isOk

/-- The bag of a stored text, which is empty if the text is damaged. -/
def ofContent (s : String) : Bag :=
  match ofContent? s with
  | .ok b => b
  | .error _ => empty

example : (ofList [("b", "1"), ("a", "2"), ("b", "3")]).pairs = [("a", "2"), ("b", "3")] := by
  decide +kernel

end Bag

end ActivityFeed
