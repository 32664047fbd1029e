import ActivityFeed.Error
import ActivityFeed.Event

/-!
# Pages

A timeline is read page by page. A page holds the newest events before a given instant, and the
next page is asked for with the instant of the last event of this one.

* `ActivityFeed.PageQuery` – whose page, before when, and how many events;
* `ActivityFeed.PageQuery.validate` – a page has at least one event and not too many;
* `ActivityFeed.Page` – a page that was read, with the instant to go on with.
-/

namespace ActivityFeed

/-- A request for a page. -/
structure PageQuery where
  /-- Whose timeline. -/
  uid : Int
  /-- All events on the page are earlier. -/
  before : Instant
  /-- The wanted number of events. -/
  limit : Nat
  /-- The largest number that may be wanted. -/
  maxLimit : Nat
  deriving DecidableEq, Repr

namespace PageQuery

/-- The largest page if nothing else is agreed. -/
def usualMaxLimit : Nat := 200

/-- A page has at least one event and not more than the largest number. -/
def validate (q : PageQuery) : Except FeedError Unit :=
  if q.limit = 0 ∨ q.maxLimit < q.limit then
    .error (.field "limit" (.pageSize q.maxLimit q.limit))
  else .ok ()

theorem validate_eq_ok_iff {q : PageQuery} :
    q.validate = .ok () ↔ 1 ≤ q.limit ∧ q.limit ≤ q.maxLimit := by
  unfold validate
  split
  · simp only [reduceCtorEq, false_iff]
    omega
  · simp only [true_iff]
    omega

end PageQuery

/-- A page of a timeline. -/
structure Page where
  /-- The events, the newest first. -/
  events : List FeedEvent
  deriving DecidableEq, Repr

namespace Page

/-- The instant with which the next page is asked for: that of the last event. -/
def nextBefore? (p : Page) : Option Instant := p.events.getLast?.map (·.createdAt)

/-- A page with events has an instant to go on with. -/
theorem nextBefore?_of_ne_nil {p : Page} (h : p.events ≠ []) :
    p.nextBefore? = some (p.events.getLast h).createdAt := by
  rw [nextBefore?, List.getLast?_eq_some_getLast h, Option.map_some]

/-- The number of events on the page. -/
def size (p : Page) : Nat := p.events.length

end Page

end ActivityFeed
