import ActivityFeed.Event
import ActivityFeed.Notice

/-!
# Rows

How storage keeps an event: the bag as a text, the time as a whole number of milliseconds. What is
lost on the way is the part of a time below a millisecond, and nothing else.

* `ActivityFeed.Mailbox` – the two places where rows are kept;
* `ActivityFeed.Row`, `ActivityFeed.Row.ofEvent`, `ActivityFeed.Row.toEvent`;
* `ActivityFeed.Row.notices` – what is odd about a row.

Rows come from older programs too, so any text and any number may stand in one. A damaged text is
read as the empty bag, and a time beyond the calendar as the beginning of 1970.
-/

namespace ActivityFeed

/-- What is odd about a stored text, as it is reported whenever the text is read. -/
def Bag.contentNotices (content : String) : List Notice :=
  if isDamaged content then [.damagedContent] else []

/-- Where rows are kept. -/
inductive Mailbox where
  /-- The pushed events, with their recipients. -/
  | inbox
  /-- The events kept for pulling, with their authors. -/
  | outbox
  deriving DecidableEq, Repr

/-- The name of a mailbox in storage. -/
def Mailbox.table : Mailbox → String
  | .inbox => "feed_push_events"
  | .outbox => "feed_pull_events"

/-- A stored event. -/
structure Row where
  /-- The number of the event. -/
  id : Int
  /-- The recipient or the author. -/
  uid : Int
  /-- The tag of the kind of event. -/
  tag : String
  /-- The text of the bag. -/
  content : String
  /-- The time in milliseconds since the beginning of 1970. -/
  ctime : Int
  deriving DecidableEq, Repr

namespace Row

/-- The row of an event. -/
def ofEvent (e : FeedEvent) : Row := ⟨e.id, e.uid, e.tag, e.bag.content, e.createdAt.millis⟩

/-- The time of a row. -/
def createdAt (r : Row) : Instant := (Instant.ofMillis? r.ctime).getD .epoch

/-- The event of a row. -/
def toEvent (r : Row) : FeedEvent := ⟨r.id, r.uid, r.tag, r.createdAt, .ofContent r.content⟩

/-- What is odd about the row, as it is reported whenever the row is read. -/
def notices (r : Row) : List Notice :=
  (if Instant.MilliInCalendar r.ctime then [] else [.strangeTime r.ctime]) ++
    Bag.contentNotices r.content

/-- The first row is shown before the second, or either order will do. -/
def precedes (a b : Row) : Bool :=
  decide (b.ctime < a.ctime ∨ a.ctime = b.ctime ∧ b.id ≤ a.id)

end Row

end ActivityFeed
