import ActivityFeed.Mailbox.Row

/-!
# The store

Two mailboxes that only grow, and one sequence of numbers for the rows of both.

* `ActivityFeed.Store` – the rows of the two mailboxes and the last number given out;
* `ActivityFeed.Write` – a write under way, which takes its numbers one by one and then appends its
  rows in one piece;
* `ActivityFeed.Store.insert` – a write from beginning to end;
* `ActivityFeed.Store.scan` – the rows of a page, be they `ActivityFeed.Store.pushed` to a user or
  `ActivityFeed.Store.kept` by some users.

Several writes may be under way at once. Each step of a write either takes a number, and then
nobody else gets it, or appends the finished rows, and then they stand together.
-/

namespace ActivityFeed

/-- The stored rows. -/
structure Store where
  /-- The pushed events, the oldest row first. -/
  inbox : List Row
  /-- The events kept for pulling, the oldest row first. -/
  outbox : List Row
  /-- The last number given out. -/
  issued : Nat
  deriving DecidableEq, Repr

namespace Store

/-- Nothing is stored. -/
def empty : Store := ⟨[], [], 0⟩

instance : Inhabited Store := ⟨empty⟩

/-- The rows of a mailbox. -/
def rows (s : Store) : Mailbox → List Row
  | .inbox => s.inbox
  | .outbox => s.outbox

/-- The store with rows appended to a mailbox. -/
def append (s : Store) (rows : List Row) : Mailbox → Store
  | .inbox => { s with inbox := s.inbox ++ rows }
  | .outbox => { s with outbox := s.outbox ++ rows }

/-- Appending to a mailbox leaves the other one alone. -/
theorem rows_append (s : Store) (rows : List Row) (m m' : Mailbox) :
    (s.append rows m).rows m' = if m' = m then s.rows m' ++ rows else s.rows m' := by
  cases m <;> cases m' <;> rfl

end Store

/-! ### Writing -/

/-- A write under way. -/
structure Write where
  /-- Where the rows go. -/
  mailbox : Mailbox
  /-- The rows that wait for a number. -/
  waiting : List Row
  /-- The rows that have their number, the last one first. -/
  numbered : List Row
  deriving DecidableEq, Repr

namespace Write

/-- A write that has not begun. -/
def start (mailbox : Mailbox) (rows : List Row) : Write := ⟨mailbox, rows, []⟩

/-- One step of a write. While rows wait, the first of them takes the next number; after that all
rows are appended at once and the write is over. -/
def step (w : Write) (s : Store) : Option Write × Store :=
  match w.waiting with
  | r :: rest =>
    let id := s.issued + 1
    (some { w with waiting := rest, numbered := { r with id := (id : Int) } :: w.numbered },
      { s with issued := id })
  | [] => (none, s.append w.numbered.reverse w.mailbox)

/-- All remaining steps of a write, with nothing in between. -/
def finish (mailbox : Mailbox) : List Row → List Row → Store → Store
  | [], numbered, s => s.append numbered.reverse mailbox
  | r :: rest, numbered, s =>
    finish mailbox rest ({ r with id := ((s.issued + 1 : Nat) : Int) } :: numbered)
      { s with issued := s.issued + 1 }

end Write

namespace Store

/-- The store with new rows in a mailbox. Whatever numbers the rows came with, they get new ones in
their order. -/
def insert (s : Store) (mailbox : Mailbox) (rows : List Row) : Store :=
  Write.finish mailbox rows [] s

/-- The store with events pushed to the inboxes of their recipients. -/
def push (s : Store) (events : List FeedEvent) : Store := s.insert .inbox (events.map Row.ofEvent)

/-- The store with an event kept for pulling. -/
def keep (s : Store) (e : FeedEvent) : Store := s.insert .outbox [Row.ofEvent e]

/-! ### Reading -/

/-- The rows of one type in a mailbox whose owner is wanted and that are earlier than `before`, the
newest first, at most `limit` of them. -/
def scan (s : Store) (mailbox : Mailbox) (tag : String) (owns : Int → Bool) (before : Instant)
    (limit : Nat) : List Row :=
  let wanted := (s.rows mailbox).filter fun r =>
    r.tag == tag && decide (r.ctime < before.cursorMillis) && owns r.uid
  (wanted.mergeSort Row.precedes).take limit

/-- The rows pushed to one user. -/
def pushed (s : Store) (tag : String) (uid : Int) (before : Instant) (limit : Nat) : List Row :=
  s.scan .inbox tag (· == uid) before limit

/-- The rows kept by some users. -/
def kept (s : Store) (tag : String) (uids : List Int) (before : Instant) (limit : Nat) :
    List Row :=
  s.scan .outbox tag (uids.contains ·) before limit

end Store

end ActivityFeed
