import ActivityFeed.Event
import ActivityFeed.Proofs.Sorting

/-!
# Timelines

The order in which events are shown looks at their times and their numbers, and tells any two events
apart that differ in one of them. Strictly read it is `ActivityFeed.FeedEvent.Newer`, and a list that
descends strictly in it is determined by its members. So a timeline can be described by what is on
it, and sorting is only one way to get there.

* `ActivityFeed.IsTimeline` – the list of the events with some property, in the order of showing;
* `ActivityFeed.IsTimeline.unique` – there is only one;
* `ActivityFeed.isTimeline_of_nodup_keys` – sorting gives it, where no two events have the time and
  the number in common;
* `ActivityFeed.mergeTimeline_cut` – sources may be cut to the size of the page before they are
  merged.
-/

namespace ActivityFeed

namespace FeedEvent

/-- **The strict order of events**: the first is later, or of the same instant and with the larger
number. -/
def Newer (a b : FeedEvent) : Prop :=
  b.createdAt < a.createdAt ∨ a.createdAt = b.createdAt ∧ b.id < a.id

instance (a b : FeedEvent) : Decidable (a.Newer b) := inferInstanceAs (Decidable (_ ∨ _))

theorem Newer.irrefl (a : FeedEvent) : ¬a.Newer a := by
  rintro (h | ⟨-, h⟩)
  · exact Instant.lt_irrefl _ h
  · exact Int.lt_irrefl _ h

theorem Newer.trans {a b c : FeedEvent} (hab : a.Newer b) (hbc : b.Newer c) : a.Newer c := by
  rcases hab with hab | ⟨hab, hi⟩ <;> rcases hbc with hbc | ⟨hbc, hj⟩
  · exact Or.inl (Instant.lt_trans hbc hab)
  · exact Or.inl (hbc ▸ hab)
  · exact Or.inl (hab ▸ hbc)
  · exact Or.inr ⟨hab.trans hbc, Int.lt_trans hj hi⟩

instance : Std.Irrefl Newer := ⟨Newer.irrefl⟩

instance : IsTrans FeedEvent Newer := ⟨fun _ _ _ => Newer.trans⟩

instance : Std.Antisymm Newer := ⟨fun a _ h h' => absurd (h.trans h') (Newer.irrefl a)⟩

/-- What the order of showing looks at: the time and the number. -/
def key (e : FeedEvent) : Instant × ℤ := (e.createdAt, e.id)

/-- Different keys turn the order of showing into the strict one. -/
theorem newer_of_precedes {a b : FeedEvent} (h : a.precedes b = true) (hne : a.key ≠ b.key) :
    a.Newer b := by
  rcases precedes_iff.mp h with h | ⟨ht, hi⟩
  · exact Or.inl h
  · exact Or.inr ⟨ht, lt_of_le_of_ne hi fun hid => hne (Prod.ext ht hid.symm)⟩

/-- Below what is earlier than an instant, everything is. -/
theorem Newer.lt_of_lt {a b : FeedEvent} {t : Instant} (h : a.Newer b) (ha : a.createdAt < t) :
    b.createdAt < t := by
  rcases h with h | ⟨h, -⟩
  · exact Instant.lt_trans h ha
  · exact h ▸ ha

/-- Nothing further down is later. -/
theorem Newer.not_lt {a b : FeedEvent} (h : a.Newer b) : ¬a.createdAt < b.createdAt :=
  fun hlt => Instant.lt_irrefl _ (h.lt_of_lt hlt)

end FeedEvent

/-- **A timeline**: the events that are to be shown, each once and the newest first. -/
structure IsTimeline (shown : FeedEvent → Prop) (events : List FeedEvent) : Prop where
  /-- The events descend strictly. -/
  sorted : events.Pairwise FeedEvent.Newer
  /-- They are the events to be shown, and no others. -/
  mem_iff : ∀ e, e ∈ events ↔ shown e

namespace IsTimeline

variable {shown shown' : FeedEvent → Prop} {events events' : List FeedEvent}

/-- **A timeline is determined by what is on it.** -/
theorem unique (h : IsTimeline shown events) (h' : IsTimeline shown events') : events = events' :=
  h.sorted.eq_of_mem_iff h'.sorted fun e => (h.mem_iff e).trans (h'.mem_iff e).symm

theorem congr (h : IsTimeline shown events) (hs : ∀ e, shown e ↔ shown' e) :
    IsTimeline shown' events :=
  ⟨h.sorted, fun e => (h.mem_iff e).trans (hs e)⟩

/-- The events before an instant are a timeline again. -/
theorem filter_lt (h : IsTimeline shown events) (t : Instant) :
    IsTimeline (fun e => shown e ∧ e.createdAt < t)
      (events.filter fun e => decide (e.createdAt < t)) where
  sorted := h.sorted.filter _
  mem_iff e := by rw [List.mem_filter, h.mem_iff, decide_eq_true_iff]

end IsTimeline

/-! ### Sorting gives the timeline -/

theorem newestFirst_perm (l : List FeedEvent) : (newestFirst l).Perm l := List.mergeSort_perm _ _

/-- **Sorting gives the timeline**, where no key stands twice. -/
theorem isTimeline_of_nodup_keys {l : List FeedEvent} (h : (l.map FeedEvent.key).Nodup) :
    IsTimeline (· ∈ l) (newestFirst l) where
  sorted := by
    have hsorted := List.pairwise_mergeSort FeedEvent.precedes_trans FeedEvent.precedes_total l
    have hkeys : ((newestFirst l).map FeedEvent.key).Nodup :=
      (((newestFirst_perm l).map FeedEvent.key).nodup_iff).mpr h
    exact hsorted.imp₂ (fun _ _ => FeedEvent.newer_of_precedes) (List.pairwise_map.mp hkeys)
  mem_iff _ := (newestFirst_perm l).mem_iff

/-- Where no key stands twice, the order in which events come does not matter. -/
theorem newestFirst_eq_of_nodup_keys {l l' : List FeedEvent} (hp : l.Perm l')
    (h : (l.map FeedEvent.key).Nodup) : newestFirst l = newestFirst l' := by
  have h' : (l'.map FeedEvent.key).Nodup := ((hp.map FeedEvent.key).nodup_iff).mp h
  exact (isTimeline_of_nodup_keys h).unique
    ((isTimeline_of_nodup_keys h').congr fun _ => hp.mem_iff.symm)

/-- Events with different numbers have different keys. -/
theorem nodup_keys_of_nodup_ids {l : List FeedEvent} (h : (l.map FeedEvent.id).Nodup) :
    (l.map FeedEvent.key).Nodup := by
  refine List.Nodup.of_map Prod.snd ?_
  rwa [List.map_map]

/-- Sorting gives the timeline, where no number stands twice. -/
theorem isTimeline_newestFirst {l : List FeedEvent} (h : (l.map FeedEvent.id).Nodup) :
    IsTimeline (· ∈ l) (newestFirst l) :=
  isTimeline_of_nodup_keys (nodup_keys_of_nodup_ids h)

/-- Where no number stands twice, the order in which events come does not matter. -/
theorem newestFirst_eq_of_perm {l l' : List FeedEvent} (hp : l.Perm l')
    (h : (l.map FeedEvent.id).Nodup) : newestFirst l = newestFirst l' :=
  newestFirst_eq_of_nodup_keys hp (nodup_keys_of_nodup_ids h)

/-! ### Merging -/

/-- **Sources may be cut before they are merged**: of a source, only its first `limit` events can
come to stand on a page of `limit` events. -/
theorem mergeTimeline_cut (sources : List (List FeedEvent)) (limit : ℕ) :
    mergeTimeline (sources.map fun s => (newestFirst s).take limit) limit =
      (newestFirst sources.flatten).take limit :=
  Sorting.first_flatten FeedEvent.precedes_trans FeedEvent.precedes_total limit sources

/-- What is merged comes from the sources, and nothing comes twice. -/
theorem mergeTimeline_subperm (sources : List (List FeedEvent)) (limit : ℕ) :
    (mergeTimeline sources limit).Subperm sources.flatten :=
  (List.take_sublist _ _).subperm.trans (newestFirst_perm _).subperm

/-- Where there is something to be merged, something is on the page. -/
theorem mergeTimeline_ne_nil {sources : List (List FeedEvent)} {source : List FeedEvent}
    (hmem : source ∈ sources) (hne : source ≠ []) {limit : ℕ} (hlimit : 1 ≤ limit) :
    mergeTimeline sources limit ≠ [] := by
  intro hnil
  rw [mergeTimeline, List.take_eq_nil_iff] at hnil
  rcases hnil with hzero | hnil
  · omega
  · obtain ⟨e, he⟩ := List.exists_mem_of_ne_nil source hne
    have hall : e ∈ newestFirst sources.flatten :=
      (newestFirst_perm _).mem_iff.mpr (List.mem_flatten.mpr ⟨source, hmem, he⟩)
    rw [hnil] at hall
    cases hall

end ActivityFeed
