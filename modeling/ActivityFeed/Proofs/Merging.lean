import ActivityFeed.Proofs.Timeline
import Mathlib.Logic.Relation

/-!
# Merging in stages

Sources are merged at once or in stages: some neighbours among them are merged into a page of the
same size, and this page takes their place (`ActivityFeed.MergesOnce`). Stages may follow one
another in any way, so pages are merged with sources or with other pages, and the final page is
always the one that merging at once gives. No assumption on the events is needed for that. Where
several have the time and the number in common, they stand on the page in the order of the sources,
since a stage leaves all neighbours where they are.

What the page is can be said without a sorting algorithm: it is the beginning of the list that
descends in the order of showing and keeps the events of each key as they came
(`ActivityFeed.StablySorted`). There is exactly one such list. Where no key stands twice, the order
in which the events came does not matter, neither that of the sources nor that inside each of them.
-/

namespace ActivityFeed

/-! ### Stable sorting -/

namespace FeedEvent

variable {k : Instant × ℤ} {e : FeedEvent} {events : List FeedEvent}

/-- The events with a time and a number, in the order in which they come. -/
def withKey (k : Instant × ℤ) (events : List FeedEvent) : List FeedEvent :=
  events.filter fun e => decide (e.key = k)

theorem mem_withKey : e ∈ withKey k events ↔ e ∈ events ∧ e.key = k := by
  rw [withKey, List.mem_filter, decide_eq_true_iff]

theorem withKey_cons_of_eq (h : e.key = k) : withKey k (e :: events) = e :: withKey k events :=
  List.filter_cons_of_pos (decide_eq_true h)

theorem withKey_cons_of_ne (h : e.key ≠ k) : withKey k (e :: events) = withKey k events :=
  List.filter_cons_of_neg fun hkey => h (of_decide_eq_true hkey)

theorem withKey_cons_self_ne_nil : withKey e.key (e :: events) ≠ [] := by
  rw [withKey_cons_of_eq rfl]
  exact List.cons_ne_nil _ _

/-- Each event has its key, so nothing is lost among the lists of all keys. -/
theorem mem_iff_of_withKey {l l' : List FeedEvent} (h : ∀ k, withKey k l = withKey k l')
    (e : FeedEvent) : e ∈ l ↔ e ∈ l' := by
  have he : e ∈ withKey e.key l ↔ e ∈ withKey e.key l' := by rw [h]
  simpa only [mem_withKey, and_true] using he

theorem precedes_of_key_eq {a b : FeedEvent} (h : a.key = b.key) : a.precedes b = true :=
  precedes_iff.mpr (.inr ⟨congrArg Prod.fst h, (congrArg Prod.snd h).ge⟩)

/-- Each of two events may be shown before the other only if they have the same key. -/
theorem key_eq_of_precedes {a b : FeedEvent} (hab : a.precedes b = true)
    (hba : b.precedes a = true) : a.key = b.key := by
  by_contra hne
  exact Newer.irrefl a ((newer_of_precedes hab hne).trans (newer_of_precedes hba (Ne.symm hne)))

/-- The first of the events in the order of showing may be shown before all of them. -/
theorem precedes_of_mem_cons {a b : FeedEvent} {l : List FeedEvent}
    (h : (a :: l).Pairwise fun a b => a.precedes b = true) (hb : b ∈ a :: l) :
    a.precedes b = true := by
  rcases List.mem_cons.mp hb with rfl | hb
  · exact precedes_of_key_eq rfl
  · exact (List.pairwise_cons.mp h).1 b hb

end FeedEvent

open FeedEvent

/-- **The events in the order of showing, and those of one key in the order in which they came.** -/
structure StablySorted (events sorted : List FeedEvent) : Prop where
  /-- The events are the same. -/
  perm : sorted.Perm events
  /-- They descend by their times, and by their numbers where the times are equal. -/
  descending : sorted.Pairwise fun a b => a.precedes b = true
  /-- Those with a time and a number in common keep their order. -/
  stable : ∀ k, withKey k sorted = withKey k events

/-- **Sorting is stable.** -/
theorem stablySorted_newestFirst (events : List FeedEvent) :
    StablySorted events (newestFirst events) where
  perm := newestFirst_perm events
  descending := List.pairwise_mergeSort precedes_trans precedes_total events
  stable k := by
    -- the events of one key are sorted as they came, so they stand in the sorted list like that
    have hties : (withKey k events).Pairwise fun a b => a.precedes b = true :=
      List.pairwise_of_forall_mem_list fun a ha b hb =>
        precedes_of_key_eq ((mem_withKey.mp ha).2.trans (mem_withKey.mp hb).2.symm)
    have hsub : (withKey k events).Sublist (newestFirst events) :=
      List.sublist_mergeSort precedes_trans precedes_total hties List.filter_sublist
    have hsame : withKey k (withKey k events) = withKey k events :=
      List.filter_eq_self.mpr fun e he => (List.mem_filter.mp he).2
    have hkeys : (withKey k (withKey k events)).Sublist (withKey k (newestFirst events)) :=
      hsub.filter _
    rw [hsame] at hkeys
    exact (hkeys.eq_of_length ((newestFirst_perm events).symm.filter _).length_eq).symm

/-- **There is only one stable order.** -/
theorem StablySorted.unique {events sorted sorted' : List FeedEvent}
    (h : StablySorted events sorted) (h' : StablySorted events sorted') : sorted = sorted' := by
  have hl := h.descending
  have hl' := h'.descending
  have hkeys := fun k => (h.stable k).trans (h'.stable k).symm
  -- two lists in the order of showing are compared key by key from here on
  clear h h'
  induction sorted generalizing sorted' with
  | nil =>
    cases sorted' with
    | nil => rfl
    | cons b l' => exact absurd (hkeys b.key).symm withKey_cons_self_ne_nil
  | cons a l ih =>
    cases sorted' with
    | nil => exact absurd (hkeys a.key) withKey_cons_self_ne_nil
    | cons b l' =>
      have hmem := mem_iff_of_withKey hkeys
      have hkey : a.key = b.key :=
        key_eq_of_precedes (precedes_of_mem_cons hl ((hmem b).mpr List.mem_cons_self))
          (precedes_of_mem_cons hl' ((hmem a).mp List.mem_cons_self))
      have hfirst := hkeys b.key
      rw [withKey_cons_of_eq hkey, withKey_cons_of_eq rfl] at hfirst
      obtain ⟨rfl, -⟩ := List.cons.inj hfirst
      refine congrArg (a :: ·) (ih (List.pairwise_cons.mp hl).2 (List.pairwise_cons.mp hl').2
        fun k => ?_)
      have hk := hkeys k
      by_cases hak : a.key = k
      · rw [withKey_cons_of_eq hak, withKey_cons_of_eq hak] at hk
        exact (List.cons.inj hk).2
      · rwa [withKey_cons_of_ne hak, withKey_cons_of_ne hak] at hk

/-! ### Stages -/

/-- **A stage of merging**: some neighbours give way to the page that is merged from them. -/
inductive MergesOnce (limit : ℕ) : List (List FeedEvent) → List (List FeedEvent) → Prop where
  /-- The neighbours may be any, also a single source or none. -/
  | group (before group after : List (List FeedEvent)) :
    MergesOnce limit (before ++ group ++ after) (before ++ mergeTimeline group limit :: after)

/-- A stage does not change the final page. -/
theorem MergesOnce.mergeTimeline_eq {limit : ℕ} {sources parts : List (List FeedEvent)}
    (h : MergesOnce limit sources parts) :
    mergeTimeline parts limit = mergeTimeline sources limit := by
  obtain ⟨before, group, after⟩ := h
  show Sorting.first precedes limit _ = Sorting.first precedes limit _
  rw [List.flatten_append, List.flatten_cons, List.flatten_append, List.flatten_append,
    List.append_assoc]
  exact Sorting.first_append_first_append precedes_trans precedes_total limit _ _ _

/-- **However many stages there are, the final page is that of merging at once.** -/
theorem mergeTimeline_eq_of_stages {limit : ℕ} {sources parts : List (List FeedEvent)}
    (h : Relation.ReflTransGen (MergesOnce limit) sources parts) :
    mergeTimeline parts limit = mergeTimeline sources limit := by
  induction h with
  | refl => rfl
  | tail _ hstage ih => exact hstage.mergeTimeline_eq.trans ih

/-- A page of pages, where every group of neighbours was merged into one. -/
theorem mergeTimeline_map_mergeTimeline (groups : List (List (List FeedEvent))) (limit : ℕ) :
    mergeTimeline (groups.map fun group => mergeTimeline group limit) limit =
      mergeTimeline groups.flatten limit := by
  have hcut := mergeTimeline_cut (groups.map List.flatten) limit
  rwa [List.map_map, ← List.flatten_flatten] at hcut

/-! ### Other orders -/

/-- The sources are the same in another order, and so are the events of each. -/
def Rearranged (sources sources' : List (List FeedEvent)) : Prop :=
  ∃ shuffled, sources.Perm shuffled ∧ List.Forall₂ List.Perm shuffled sources'

/-- Where no key stands twice, a page does not depend on the order in which its events came. -/
theorem Rearranged.mergeTimeline_eq {sources sources' : List (List FeedEvent)}
    (h : Rearranged sources sources') (hkeys : (sources.flatten.map key).Nodup) (limit : ℕ) :
    mergeTimeline sources' limit = mergeTimeline sources limit := by
  obtain ⟨shuffled, hsources, hinside⟩ := h
  have hperm : sources.flatten.Perm sources'.flatten :=
    hsources.flatten.trans (List.Perm.flatten_congr hinside)
  rw [mergeTimeline, mergeTimeline, newestFirst_eq_of_nodup_keys hperm hkeys]

/-- **Merging is exact.** Pages that were merged from groups of neighbours, or in stages of any
kind, are merged into the page of all sources, which is the beginning of the one stable order of all
events. Where no key stands twice, nothing depends on the order in which the events came. -/
theorem mergeTimeline_exact (limit : ℕ) :
    (∀ groups : List (List (List FeedEvent)),
      mergeTimeline (groups.map fun group => mergeTimeline group limit) limit =
        mergeTimeline groups.flatten limit) ∧
      (∀ sources parts, Relation.ReflTransGen (MergesOnce limit) sources parts →
        mergeTimeline parts limit = mergeTimeline sources limit) ∧
      (∀ sources : List (List FeedEvent), ∃ sorted, StablySorted sources.flatten sorted ∧
        (∀ other, StablySorted sources.flatten other → other = sorted) ∧
        mergeTimeline sources limit = sorted.take limit) ∧
      ∀ sources sources', (sources.flatten.map key).Nodup → Rearranged sources sources' →
        mergeTimeline sources' limit = mergeTimeline sources limit := by
  refine ⟨fun groups => ?_, fun sources parts h => ?_, fun sources => ?_, ?_⟩
  · exact mergeTimeline_map_mergeTimeline groups limit
  · exact mergeTimeline_eq_of_stages h
  · have hsorted := stablySorted_newestFirst sources.flatten
    exact ⟨_, hsorted, fun other h => h.unique hsorted, rfl⟩
  · exact fun sources sources' hkeys h => h.mergeTimeline_eq hkeys limit

namespace FeedEvent

/-- Events of several users that have their time and their number in common. -/
def tied (uid : ℤ) : FeedEvent := ⟨7, uid, "like", ⟨10, 0⟩, .empty⟩

/-- An event of the same time with a larger number. -/
def above : FeedEvent := ⟨9, 1, "like", ⟨10, 0⟩, .empty⟩

/-- An event of an earlier time. -/
def below : FeedEvent := ⟨8, 1, "like", ⟨5, 0⟩, .empty⟩

end FeedEvent

/-- Of two events with one key the page keeps the one whose source comes first, also if the other
was merged before; and without the other one, the sources may come in any order. -/
theorem mergeTimeline_exact_tied :
    Relation.ReflTransGen (MergesOnce 2) [[tied 1], [tied 2], [below, above]]
        [[tied 1], [above, tied 2]] ∧
      mergeTimeline [[tied 1], [above, tied 2]] 2 =
        mergeTimeline [[tied 1], [tied 2], [below, above]] 2 ∧
      mergeTimeline [[tied 1], [tied 2], [below, above]] 2 = [above, tied 1] ∧
      mergeTimeline [[tied 2], [tied 1], [below, above]] 2 = [above, tied 2] ∧
      ([[tied 1], [below, above]].flatten.map key).Nodup ∧
      Rearranged [[tied 1], [below, above]] [[above, below], [tied 1]] ∧
      mergeTimeline [[above, below], [tied 1]] 2 = mergeTimeline [[tied 1], [below, above]] 2 := by
  obtain ⟨-, hstages, -, hrearranged⟩ := mergeTimeline_exact 2
  have hsort : ∀ sources, mergeTimeline sources 2 =
      (sources.flatten.insertionSort fun a b => a.precedes b = true).take 2 :=
    fun _ => congrArg _ (Sorting.mergeSort_eq_insertionSort precedes_trans precedes_total _)
  have hstage : MergesOnce 2 [[tied 1], [tied 2], [below, above]]
      [[tied 1], [above, tied 2]] := by
    have hpage : mergeTimeline [[tied 2], [below, above]] 2 = [above, tied 2] :=
      (hsort _).trans (by decide)
    exact hpage ▸ MergesOnce.group [[tied 1]] [[tied 2], [below, above]] []
  have hkeys : ([[tied 1], [below, above]].flatten.map key).Nodup := by decide
  have horder : Rearranged [[tied 1], [below, above]] [[above, below], [tied 1]] :=
    ⟨[[below, above], [tied 1]], .swap _ _ _, .cons (.swap _ _ _) (.cons (.refl _) .nil)⟩
  exact ⟨.single hstage, hstages _ _ (.single hstage), (hsort _).trans (by decide),
    (hsort _).trans (by decide), hkeys, horder, hrearranged _ _ hkeys horder⟩

end ActivityFeed
