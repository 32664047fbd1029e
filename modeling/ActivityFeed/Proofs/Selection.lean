import ActivityFeed.Kind
import ActivityFeed.Mailbox.Store
import ActivityFeed.Proofs.Cursor
import Mathlib.Data.List.Perm.Basic
import Mathlib.Data.List.Perm.Subperm

/-!
# What the store selects

A user sees the rows of the own inbox whose kinds are in use and, if articles are among them, the
articles that the followed users keep. Read at once, these rows make up one timeline, and this is
how a page is meant to be found: all rows, sorted once, cut once.

The store is asked differently, kind by kind and mailbox by mailbox, and each answer is sorted and
cut by itself. This file brings the two together for a store that is *readable*
(`ActivityFeed.Store.Readable`): no number stands twice, and the calendar reaches all times.

* `ActivityFeed.Store.visibleRows`, `ActivityFeed.Store.timeline` – what a user sees, read at once;
* `ActivityFeed.Store.map_toEvent_scan` – one answer of the store, and
  `ActivityFeed.Store.map_toEvent_scan_subperm` for a store that need not be readable;
* `ActivityFeed.Store.flatMap_rowsOf_perm` – kind by kind, every visible row is met once.
-/

namespace ActivityFeed

/-- Different kinds have different tags. -/
theorem Kind.tag_injective : Function.Injective Kind.tag := fun k k' h =>
  Option.some_inj.mp (by rw [← ofTag?_tag k, h, ofTag?_tag])

/-- The events of rows, as far as they happened before an instant. -/
def eventsBefore (before : Instant) (rows : List Row) : List FeedEvent :=
  (rows.map Row.toEvent).filter fun e => decide (e.createdAt < before)

theorem eventsBefore_append (before : Instant) (rows rows' : List Row) :
    eventsBefore before (rows ++ rows') =
      eventsBefore before rows ++ eventsBefore before rows' := by
  rw [eventsBefore, List.map_append, List.filter_append, eventsBefore, eventsBefore]

theorem eventsBefore_perm {rows rows' : List Row} (h : rows.Perm rows') (before : Instant) :
    (eventsBefore before rows).Perm (eventsBefore before rows') :=
  (h.map Row.toEvent).filter _

theorem mem_eventsBefore {before : Instant} {rows : List Row} {e : FeedEvent} :
    e ∈ eventsBefore before rows ↔ (∃ r ∈ rows, r.toEvent = e) ∧ e.createdAt < before := by
  rw [eventsBefore, List.mem_filter, List.mem_map, decide_eq_true_iff]

/-- Reading rows repeats no number. -/
theorem nodup_ids_eventsBefore {rows : List Row} (h : (rows.map Row.id).Nodup) (before : Instant) :
    ((eventsBefore before rows).map FeedEvent.id).Nodup := by
  have hmap : (rows.map Row.toEvent).map FeedEvent.id = rows.map Row.id := by
    rw [List.map_map]
    rfl
  exact (hmap ▸ h).sublist (List.filter_sublist.map _)

namespace Store

/-- **A readable store**: no number stands twice in the two mailboxes, and the calendar reaches the
times of all rows. -/
structure Readable (s : Store) : Prop where
  /-- The numbers of all rows are different. -/
  distinct : ((s.inbox ++ s.outbox).map Row.id).Nodup
  /-- No time lies beyond the calendar. -/
  inCalendar : ∀ r ∈ s.inbox ++ s.outbox, Instant.MilliInCalendar r.ctime

theorem mem_of_mem_rows {s : Store} {m : Mailbox} {r : Row} (h : r ∈ s.rows m) :
    r ∈ s.inbox ++ s.outbox := by
  cases m with
  | inbox => exact List.mem_append_left _ h
  | outbox => exact List.mem_append_right _ h

/-! ### One answer of the store -/

/-- **One answer of the store**: the wanted rows of a mailbox, as events, before the cursor, sorted
and cut. -/
theorem map_toEvent_scan {s : Store} (hs : s.Readable) (m : Mailbox) (tag : String)
    (owns : ℤ → Bool) {before : Instant} (hb : ¬before.InLeapSecond) (limit : ℕ) :
    (s.scan m tag owns before limit).map Row.toEvent =
      (newestFirst (eventsBefore before
        ((s.rows m).filter fun r => r.tag == tag && owns r.uid))).take limit := by
  have hcal : ∀ r ∈ s.rows m, Instant.MilliInCalendar r.ctime := fun r hr =>
    hs.inCalendar r (mem_of_mem_rows hr)
  have hwanted : ((s.rows m).filter fun r =>
        r.tag == tag && decide (r.ctime < before.cursorMillis) && owns r.uid).map Row.toEvent =
      eventsBefore before ((s.rows m).filter fun r => r.tag == tag && owns r.uid) := by
    rw [Row.filter_wanted, eventsBefore, List.filter_map]
    refine congrArg _ (List.filter_congr fun r hr => decide_eq_decide.mpr ?_)
    exact Row.ctime_lt_cursorMillis_iff (hcal r (List.mem_of_mem_filter hr)) hb
  rw [scan, List.map_take, Row.map_toEvent_mergeSort fun r hr => hcal r (List.mem_of_mem_filter hr),
    hwanted]

/-- **Whatever is stored**, an answer consists of wanted rows before the cursor, and it has none of
them twice. -/
theorem map_toEvent_scan_subperm (s : Store) (m : Mailbox) (tag : String) (owns : ℤ → Bool)
    (before : Instant) (limit : ℕ) :
    ((s.scan m tag owns before limit).map Row.toEvent).Subperm
      ((((s.rows m).filter fun r => r.tag == tag && owns r.uid).filter
        fun r => decide (r.ctime < before.cursorMillis)).map Row.toEvent) := by
  refine ((List.take_sublist _ _).map _).subperm.trans ?_
  refine ((List.mergeSort_perm _ _).map _).subperm.trans (List.Perm.of_eq ?_).subperm
  rw [Row.filter_wanted]

/-! ### All that a user sees -/

section Visible

variable (s : Store) (kinds : List Kind) (followees : List ℤ) (uid : ℤ)

/-- The rows that a user sees who follows the given users: what was pushed to the user, of the kinds
in use, and the articles that the followed users keep. -/
def visibleRows : List Row :=
  (s.inbox.filter fun r => r.uid == uid && (kinds.map Kind.tag).contains r.tag) ++
    if Kind.article ∈ kinds then
      s.outbox.filter fun r => r.tag == Kind.article.tag && followees.contains r.uid
    else []

/-- **All that a user sees before an instant**, found without detours: the visible rows, read as
events and sorted once. -/
def timeline (before : Instant) : List FeedEvent :=
  newestFirst (eventsBefore before (s.visibleRows kinds followees uid))

/-- The rows of one kind that a user sees. -/
def rowsOf (k : Kind) : List Row :=
  (s.inbox.filter fun r => r.tag == k.tag && r.uid == uid) ++
    if k = .article then
      s.outbox.filter fun r => r.tag == Kind.article.tag && followees.contains r.uid
    else []

end Visible

variable {s : Store} {kinds : List Kind} {followees : List ℤ} {uid : ℤ}

/-- **Selecting value by value selects everything with one of the values once.** -/
theorem flatMap_filter_perm {α κ : Type} [DecidableEq κ] {values : List κ} (hv : values.Nodup)
    (f : α → κ) (p : α → Bool) (l : List α) :
    (values.flatMap fun v => l.filter fun a => f a == v && p a).Perm
      (l.filter fun a => p a && values.contains (f a)) := by
  induction values with
  | nil => simp
  | cons v values ih =>
    obtain ⟨hnot, hv⟩ := List.nodup_cons.mp hv
    refine ((ih hv).append_left _).trans ?_
    -- what has the first value is split off what has any of the values
    refine List.Perm.trans (.of_eq ?_) (List.filter_append_perm (fun a => f a == v) _)
    rw [List.filter_filter, List.filter_filter]
    refine congrArg₂ _ (List.filter_congr fun a _ => ?_) (List.filter_congr fun a _ => ?_)
    · by_cases h : f a = v
      · simp [h]
      · simp [beq_false_of_ne h]
    · by_cases h : f a = v
      · simp [h, hnot]
      · simp [h]

/-- Selecting kind by kind selects every row of some kind once. -/
theorem flatMap_filter_tag_perm (hk : kinds.Nodup) (p : Row → Bool) (rows : List Row) :
    (kinds.flatMap fun k => rows.filter fun r => r.tag == k.tag && p r).Perm
      (rows.filter fun r => p r && (kinds.map Kind.tag).contains r.tag) := by
  have hperm := flatMap_filter_perm (hk.map Kind.tag_injective) Row.tag p rows
  rwa [List.flatMap_map] at hperm

/-- Only the kind of articles has rows in the outbox. -/
theorem flatMap_if_article {α : Type} (hk : kinds.Nodup) (l : List α) :
    (kinds.flatMap fun k => if k = Kind.article then l else []) =
      if Kind.article ∈ kinds then l else [] := by
  induction kinds with
  | nil => rfl
  | cons k kinds ih =>
    obtain ⟨hnot, hk⟩ := List.nodup_cons.mp hk
    rw [List.flatMap_cons, ih hk]
    by_cases h : k = Kind.article
    · subst h
      rw [if_pos rfl, if_neg hnot, if_pos List.mem_cons_self, List.append_nil]
    · simp [h, Ne.symm h]

/-- **Kind by kind, every visible row is met once.** -/
theorem flatMap_rowsOf_perm (hk : kinds.Nodup) :
    (kinds.flatMap (s.rowsOf followees uid)).Perm (s.visibleRows kinds followees uid) := by
  have hinbox := flatMap_filter_tag_perm hk (fun r => r.uid == uid) s.inbox
  have houtbox := flatMap_if_article hk
    (s.outbox.filter fun r => r.tag == Kind.article.tag && followees.contains r.uid)
  exact (List.flatMap_append_perm kinds _ _).symm.trans (hinbox.append (.of_eq houtbox))

theorem visibleRows_sublist :
    (s.visibleRows kinds followees uid).Sublist (s.inbox ++ s.outbox) := by
  refine List.Sublist.append List.filter_sublist ?_
  split
  · exact List.filter_sublist
  · exact List.nil_sublist _

theorem mem_of_mem_visibleRows {r : Row} (h : r ∈ s.visibleRows kinds followees uid) :
    r ∈ s.inbox ++ s.outbox := visibleRows_sublist.mem h

/-- A user sees no row twice. -/
theorem nodup_ids_visibleRows (hs : s.Readable) :
    ((s.visibleRows kinds followees uid).map Row.id).Nodup :=
  hs.distinct.sublist (visibleRows_sublist.map _)

/-- **What is read at once is the timeline of the visible rows.** -/
theorem isTimeline_timeline (hs : s.Readable) (before : Instant) :
    IsTimeline (fun e => (∃ r ∈ s.visibleRows kinds followees uid, r.toEvent = e) ∧
      e.createdAt < before) (s.timeline kinds followees uid before) :=
  (isTimeline_newestFirst (nodup_ids_eventsBefore (nodup_ids_visibleRows hs) before)).congr
    fun _ => mem_eventsBefore

/-- What a user sees before an earlier instant is a part of what the user sees. -/
theorem timeline_filter_lt (hs : s.Readable) {before before' : Instant}
    (h : ∀ t : Instant, t < before' → t < before) :
    (s.timeline kinds followees uid before).filter (fun e => decide (e.createdAt < before')) =
      s.timeline kinds followees uid before' :=
  ((isTimeline_timeline hs before).filter_lt before').unique <|
    (isTimeline_timeline hs before').congr fun e =>
      ⟨fun ⟨he, hlt⟩ => ⟨⟨he, h e.createdAt hlt⟩, hlt⟩, fun ⟨⟨he, _⟩, hlt⟩ => ⟨he, hlt⟩⟩

/-- A user sees no more than is stored. -/
theorem length_timeline_le (s : Store) (kinds : List Kind) (followees : List ℤ) (uid : ℤ)
    (before : Instant) :
    (s.timeline kinds followees uid before).length ≤ s.inbox.length + s.outbox.length := by
  rw [timeline, (newestFirst_perm _).length_eq, ← List.length_append]
  refine (List.length_filter_le _ _).trans ?_
  rw [List.length_map]
  exact visibleRows_sublist.length_le

/-- No event is shown with a time in a leap second. -/
theorem not_inLeapSecond_of_mem_timeline (hs : s.Readable) {before : Instant} {e : FeedEvent}
    (he : e ∈ s.timeline kinds followees uid before) : ¬e.createdAt.InLeapSecond := by
  obtain ⟨⟨r, hr, rfl⟩, -⟩ := ((isTimeline_timeline hs before).mem_iff e).mp he
  rw [Row.toEvent, Row.createdAt_eq (hs.inCalendar r (mem_of_mem_visibleRows hr))]
  exact Instant.not_inLeapSecond_ofMillis r.ctime

end Store

end ActivityFeed
