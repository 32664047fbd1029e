import ActivityFeed.Field
import ActivityFeed.Kind
import ActivityFeed.Policy
import ActivityFeed.Timed

/-!
# Handlers

Each kind of event has a handler. It takes the bag of a new event and decides what is to be stored
for whom, and it finds the events of its kind that belong on a page.

* `ActivityFeed.Work` – what handlers do;
* `ActivityFeed.Collaborators` – what a handler can rely on;
* `ActivityFeed.Handler` – a handler;
* `ActivityFeed.Handler.follow`, `ActivityFeed.Handler.like`, `ActivityFeed.Handler.article` – the
  three handlers.

Creating an event ends with exactly one delivery, which is the last call of the work. Whatever
fails before it leaves the store as it was.
-/

namespace ActivityFeed

/-- Work that may fail with an error of the feed, or crash. -/
abbrev Work (α : Type) := Timed (Failure FeedError) α

/-- What a handler can rely on: a clock, answers to its questions, and a place for deliveries. -/
structure Collaborators where
  /-- The time of the clock. -/
  now : Instant
  /-- Asks a question. -/
  ask : (q : Query) → Work q.Answer
  /-- Hands over a delivery. -/
  deliver : Delivery → Work Unit

/-- A handler of one kind of event. -/
structure Handler where
  /-- The kind of event. -/
  kind : Kind
  /-- Creates a new event with the given bag. -/
  create : Collaborators → Bag → Work Delivery
  /-- Finds the events for the page of a user before an instant, at most so many. -/
  find : Collaborators → Int → Instant → Nat → Work (List FeedEvent)

namespace Handler

/-- The value of a field of the bag. -/
def field {α : Type} (r : Except FeedError α) : Work α :=
  .ofExcept (r.mapError .error)

/-- Hands over a delivery, and tells which it was. -/
def handOver (c : Collaborators) (d : Delivery) : Work Delivery := do
  c.deliver d
  return d

/-- A new event of a kind; storage will give it a number. -/
def newEvent (kind : Kind) (c : Collaborators) (bag : Bag) (uid : Int) : FeedEvent :=
  ⟨0, uid, kind.tag, c.now, bag⟩

/-- The handler of a kind of event that goes to the inbox of the one user named by a field. -/
def direct (kind : Kind) (key : String) : Handler where
  kind := kind
  create c bag := do
    let uid ← field (bag.int64 key)
    handOver c (.inboxes [newEvent kind c bag uid])
  find c uid before limit := c.ask (.pushed kind.tag uid before limit)

/-- Somebody followed somebody: the followed user is told. -/
def follow : Handler := direct .follow "followee"

/-- Somebody liked something: its owner is told. -/
def like : Handler := direct .like "liked"

namespace Article

/-- Creates an article: pushes it to the followers of its author or keeps it. -/
def create (policy : FanoutPolicy) (c : Collaborators) (bag : Bag) : Work Delivery := do
  let uid ← field (bag.int64 "uid")
  let count ← c.ask (.followerCount uid)
  if policy.pulls count then
    .note (.articleKept uid count policy.threshold)
    handOver c (.outbox (newEvent .article c bag uid))
  else
    let followers ← c.ask (.followers uid (policy.pushFetch count))
    .note (.articlePushed uid count policy.threshold followers.length)
    handOver c (.inboxes (followers.map (newEvent .article c bag)))

/-- Finds the articles that the users followed by a reader keep. -/
def findKept (policy : FanoutPolicy) (c : Collaborators) (uid : Int) (before : Instant)
    (limit : Nat) : Work (List FeedEvent) := do
  let followees ← c.ask (.followees uid policy.followeeLimit)
  if followees.isEmpty then
    return []
  else
    c.ask (.kept Kind.article.tag followees before limit)

/-- Finds articles: those pushed to a reader and those that the reader pulls. -/
def find (policy : FanoutPolicy) (c : Collaborators) (uid : Int) (before : Instant)
    (limit : Nat) : Work (List FeedEvent) := do
  let (inbox, outbox) ← Timed.both (c.ask (.pushed Kind.article.tag uid before limit))
    (findKept policy c uid before limit)
  .note (.articlesMerged uid inbox.length outbox.length)
  return mergeTimeline [inbox, outbox] limit

end Article

/-- Somebody wrote an article: the followers are told, or will look. -/
def article (policy : FanoutPolicy) : Handler where
  kind := .article
  create := Article.create policy
  find := Article.find policy

/-- The handler of a kind. -/
def ofKind (policy : FanoutPolicy) : Kind → Handler
  | .article => article policy
  | .follow => follow
  | .like => like

theorem kind_ofKind (policy : FanoutPolicy) (k : Kind) : (ofKind policy k).kind = k := by
  cases k <;> rfl

end Handler

end ActivityFeed
