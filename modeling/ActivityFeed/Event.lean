import ActivityFeed.Bag
import ActivityFeed.Time.Instant

/-!
# Events and their order

A feed shows events, the newest first. Of two events of the same instant the one with the larger
number is shown first. Feeds come from several sources, each in its own order; they are merged by
sorting them all.

* `ActivityFeed.FeedEvent` – an event;
* `ActivityFeed.FeedEvent.precedes` – the order in which events are shown;
* `ActivityFeed.newestFirst`, `ActivityFeed.mergeTimeline` – sorting, and merging into one page.

Sorting is stable, so events that the order does not tell apart stay as they came.
-/

namespace ActivityFeed

/-- Something that happened, as one user sees it or as its author keeps it. -/
structure FeedEvent where
  /-- The number that storage gave the event. -/
  id : Int
  /-- The recipient of a pushed event, or the author of one that is kept for pulling. -/
  uid : Int
  /-- The tag of the kind of event. -/
  tag : String
  /-- When it happened. -/
  createdAt : Instant
  /-- What its handler wants to know. -/
  bag : Bag
  deriving DecidableEq, Repr

/-- The first event may be shown before the second. -/
def FeedEvent.precedes (a b : FeedEvent) : Bool :=
  decide (b.createdAt < a.createdAt ∨ a.createdAt = b.createdAt ∧ b.id ≤ a.id)

namespace FeedEvent

theorem precedes_iff {a b : FeedEvent} :
    a.precedes b = true ↔
      b.createdAt < a.createdAt ∨ a.createdAt = b.createdAt ∧ b.id ≤ a.id := by
  simp [precedes]

/-- Of two events one may always be shown before the other. -/
theorem precedes_total (a b : FeedEvent) : (a.precedes b || b.precedes a) = true := by
  rw [Bool.or_eq_true, precedes_iff, precedes_iff]
  rcases Instant.lt_or_eq_or_lt a.createdAt b.createdAt with h | h | h
  · exact .inr (.inl h)
  · rcases Int.le_total a.id b.id with hi | hi
    · exact .inr (.inr ⟨h.symm, hi⟩)
    · exact .inl (.inr ⟨h, hi⟩)
  · exact .inl (.inl h)

theorem precedes_trans (a b c : FeedEvent) (hab : a.precedes b = true) (hbc : b.precedes c = true) :
    a.precedes c = true := by
  rw [precedes_iff] at hab hbc ⊢
  rcases hab with hab | ⟨hab, hi⟩ <;> rcases hbc with hbc | ⟨hbc, hj⟩
  · exact .inl (Instant.lt_trans hbc hab)
  · exact .inl (hbc ▸ hab)
  · exact .inl (hab ▸ hbc)
  · exact .inr ⟨hab.trans hbc, Int.le_trans hj hi⟩

end FeedEvent

/-- The events in the order in which they are shown. -/
def newestFirst (events : List FeedEvent) : List FeedEvent := events.mergeSort FeedEvent.precedes

/-- The first `limit` events of all sources. -/
def mergeTimeline (sources : List (List FeedEvent)) (limit : Nat) : List FeedEvent :=
  (newestFirst sources.flatten).take limit

end ActivityFeed
