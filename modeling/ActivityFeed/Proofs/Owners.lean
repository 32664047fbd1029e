import ActivityFeed.Proofs.Selection
import ActivityFeed.Proofs.Sorting

/-!
# Reading what several users keep

The articles that several users keep are read at once, from one log in which the rows of all users
stand mixed. They could be read user by user, each answer cut to the size of the page, and merged
into a page afterwards. Both give the same page (`ActivityFeed.Store.kept_composes`), as long as no
number stands twice in the log and the calendar reaches all its times. The cursor may be any
instant, also one in a leap second, since both ways use the same one.

So the answer depends on the users and not on the list that names them, no row is in it twice, and
a larger page goes on where a smaller one ends.
-/

namespace ActivityFeed

namespace Store

variable {s : Store} {tag : String} {uids : List ℤ} {before : Instant} {limit : ℕ}

/-- The kept rows of one type before a cursor that belong to one of the users, in the order of the
log. -/
def keptBefore (s : Store) (tag : String) (uids : List ℤ) (before : Instant) : List Row :=
  s.outbox.filter fun r =>
    r.tag == tag && decide (r.ctime < before.cursorMillis) && uids.contains r.uid

theorem kept_eq :
    s.kept tag uids before limit =
      ((s.keptBefore tag uids before).mergeSort Row.precedes).take limit := rfl

/-- An answer is the beginning of the timeline of the rows before the cursor. -/
theorem map_toEvent_kept (htimes : ∀ r ∈ s.outbox, Instant.MilliInCalendar r.ctime) :
    (s.kept tag uids before limit).map Row.toEvent =
      (newestFirst ((s.keptBefore tag uids before).map Row.toEvent)).take limit := by
  have hsort : ((s.keptBefore tag uids before).mergeSort Row.precedes).map Row.toEvent =
      newestFirst ((s.keptBefore tag uids before).map Row.toEvent) :=
    Row.map_toEvent_mergeSort fun r hr => htimes r (List.mem_of_mem_filter hr)
  rw [kept_eq, List.map_take, hsort]

/-- The list of the users does not matter, only who is in it. -/
theorem kept_congr {uids' : List ℤ} (h : ∀ u, u ∈ uids' ↔ u ∈ uids) :
    s.kept tag uids' before limit = s.kept tag uids before limit := by
  have hcontains : ∀ u, uids'.contains u = uids.contains u := fun u => by
    rw [Bool.eq_iff_iff, List.contains_iff_mem, List.contains_iff_mem, h]
  simp only [kept, hcontains]

/-- **User by user, every row of one of the users is met once.** -/
theorem flatMap_keptBefore_perm {owners : List ℤ} (hnodup : owners.Nodup)
    (howners : ∀ u, u ∈ owners ↔ u ∈ uids) :
    (owners.flatMap fun u => s.keptBefore tag [u] before).Perm (s.keptBefore tag uids before) := by
  have hperm := flatMap_filter_perm hnodup Row.uid
    (fun r => r.tag == tag && decide (r.ctime < before.cursorMillis)) s.outbox
  refine (List.Perm.of_eq ?_).trans (hperm.trans (.of_eq ?_))
  · refine List.flatMap_congr fun u _ => List.filter_congr fun r _ => ?_
    rw [Bool.and_comm, List.contains_cons, List.contains_nil, Bool.or_false]
  · refine List.filter_congr fun r _ => congrArg _ ?_
    rw [Bool.eq_iff_iff, List.contains_iff_mem, List.contains_iff_mem, howners]

/-- No row is selected twice. -/
theorem nodup_ids_keptBefore (hids : (s.outbox.map Row.id).Nodup) :
    ((s.keptBefore tag uids before).map Row.id).Nodup :=
  hids.sublist (List.filter_sublist.map _)

/-- **Reading what several users keep is merging what each of them keeps.** Where no number stands
twice in the outbox and the calendar reaches all its times, an answer for several users is the page
that is merged from the answers for each of them, in whatever order they are asked. So it does not
depend on how the users are listed, it has no row twice, and a smaller answer is the beginning of a
larger one. -/
theorem kept_composes (s : Store) (hids : (s.outbox.map Row.id).Nodup)
    (htimes : ∀ r ∈ s.outbox, Instant.MilliInCalendar r.ctime) (tag : String) (uids : List ℤ)
    (before : Instant) (limit : ℕ) :
    (∀ owners : List ℤ, owners.Nodup → (∀ u, u ∈ owners ↔ u ∈ uids) →
      (s.kept tag uids before limit).map Row.toEvent =
        mergeTimeline (owners.map fun u => (s.kept tag [u] before limit).map Row.toEvent) limit) ∧
      (∀ uids' : List ℤ, (∀ u, u ∈ uids' ↔ u ∈ uids) →
        s.kept tag uids' before limit = s.kept tag uids before limit) ∧
      ((s.kept tag uids before limit).map Row.id).Nodup ∧
      ∀ larger, limit ≤ larger →
        (s.kept tag uids before limit).map Row.toEvent <+:
          (s.kept tag uids before larger).map Row.toEvent := by
  refine ⟨fun owners hnodup howners => ?_, fun uids' h => kept_congr h, ?_, fun larger hle => ?_⟩
  · have hperm : ((owners.map fun u => (s.keptBefore tag [u] before).map Row.toEvent).flatten).Perm
        ((s.keptBefore tag uids before).map Row.toEvent) := by
      have hkept : (owners.flatMap fun u => s.keptBefore tag [u] before).Perm
          (s.keptBefore tag uids before) := flatMap_keptBefore_perm hnodup howners
      have hrows := hkept.map Row.toEvent
      rwa [List.map_flatMap] at hrows
    have hevents : (((s.keptBefore tag uids before).map Row.toEvent).map FeedEvent.id).Nodup := by
      rw [List.map_map]
      exact nodup_ids_keptBefore hids
    have hcut := mergeTimeline_cut
      (owners.map fun u => (s.keptBefore tag [u] before).map Row.toEvent) limit
    rw [List.map_map] at hcut
    calc (s.kept tag uids before limit).map Row.toEvent
        = (newestFirst ((s.keptBefore tag uids before).map Row.toEvent)).take limit :=
          map_toEvent_kept htimes
      _ = _ := congrArg _ (newestFirst_eq_of_perm hperm.symm hevents)
      _ = _ := hcut.symm
      _ = _ := congrArg (mergeTimeline · limit)
          (List.map_congr_left fun u _ => (map_toEvent_kept htimes).symm)
  · refine List.Nodup.sublist ((List.take_sublist _ _).map _) ?_
    exact (((List.mergeSort_perm _ _).map Row.id).nodup_iff).mpr (nodup_ids_keptBefore hids)
  · rw [kept_eq, kept_eq]
    exact (List.take_prefix_take_left hle).map _

/-- Articles of three users, two of the same millisecond and one with a damaged text. -/
def threeAuthors : Store where
  inbox := []
  outbox := [⟨1, 2, "article_event", "\x7b\x7d", 10⟩, ⟨2, 3, "article_event", "\x7b\x7d", 10⟩,
    ⟨3, 2, "article_event", "\x7b", 5⟩, ⟨4, 4, "article_event", "\x7b\x7d", 20⟩,
    ⟨5, 3, "article_event", "\x7b\x7d", -7⟩]
  issued := 5

/-- Two of them are named, one of them twice, and the answer takes rows of both in turn. -/
theorem kept_composes_threeAuthors :
    (threeAuthors.outbox.map Row.id).Nodup ∧
      (∀ r ∈ threeAuthors.outbox, Instant.MilliInCalendar r.ctime) ∧
      ([2, 3] : List ℤ).Nodup ∧ (∀ u : ℤ, u ∈ [2, 3] ↔ u ∈ [3, 2, 3]) ∧
      (threeAuthors.kept "article_event" [3, 2, 3] ⟨1, 0⟩ 3).map Row.id = [2, 1, 3] ∧
      (threeAuthors.kept "article_event" [3, 2, 3] ⟨1, 0⟩ 3).map Row.toEvent =
        mergeTimeline [(threeAuthors.kept "article_event" [2] ⟨1, 0⟩ 3).map Row.toEvent,
          (threeAuthors.kept "article_event" [3] ⟨1, 0⟩ 3).map Row.toEvent] 3 ∧
      (threeAuthors.kept "article_event" [3, 2, 3] ⟨1, 0⟩ 3).map Row.toEvent <+:
        (threeAuthors.kept "article_event" [3, 2, 3] ⟨1, 0⟩ 4).map Row.toEvent := by
  have hids : (threeAuthors.outbox.map Row.id).Nodup := by decide
  have htimes : ∀ r ∈ threeAuthors.outbox, Instant.MilliInCalendar r.ctime := by decide
  have hnodup : ([2, 3] : List ℤ).Nodup := by decide
  have howners : ∀ u : ℤ, u ∈ [2, 3] ↔ u ∈ [3, 2, 3] := by
    intro u
    simp only [List.mem_cons, List.not_mem_nil, or_false]
    omega
  obtain ⟨hmerge, -, -, hprefix⟩ :=
    kept_composes threeAuthors hids htimes "article_event" [3, 2, 3] ⟨1, 0⟩ 3
  have hanswer :
      (threeAuthors.kept "article_event" [3, 2, 3] ⟨1, 0⟩ 3).map Row.id = [2, 1, 3] := by
    -- inserting is what the kernel can follow
    rw [kept_eq, Sorting.mergeSort_eq_insertionSort Row.precedes_trans Row.precedes_total]
    decide +kernel
  exact ⟨hids, htimes, hnodup, howners, hanswer, hmerge [2, 3] hnodup howners,
    hprefix 4 (by decide)⟩

end Store

end ActivityFeed
