import ActivityFeed.Error
import ActivityFeed.Event
import ActivityFeed.Json.Compact
import ActivityFeed.Text.Decimal

/-!
# Calls to collaborators

A handler asks the social graph and the store questions, and hands deliveries to the store. Each of
these calls has a name and can be written down.

* `ActivityFeed.Query` and `ActivityFeed.Query.Answer` – the questions and the types of their
  answers;
* `ActivityFeed.Delivery` – what is to be stored;
* `ActivityFeed.Call`, with `ActivityFeed.Call.json` – a call of either sort as a journal shows it.
-/

namespace ActivityFeed

/-- A question of a handler. -/
inductive Query where
  /-- How many followers has the user? -/
  | followerCount (uid : Int)
  /-- Who follows the user? -/
  | followers (uid : Int) (limit : Nat)
  /-- Whom does the user follow? -/
  | followees (uid : Int) (limit : Nat)
  /-- Which events of a type were pushed to the user? -/
  | pushed (tag : String) (uid : Int) (before : Instant) (limit : Nat)
  /-- Which events of a type did the users keep for pulling? -/
  | kept (tag : String) (uids : List Int) (before : Instant) (limit : Nat)
  deriving DecidableEq, Repr

/-- The type of the answers to a question. -/
@[reducible] def Query.Answer : Query → Type
  | .followerCount _ => Int
  | .followers _ _ => List Int
  | .followees _ _ => List Int
  | .pushed _ _ _ _ => List FeedEvent
  | .kept _ _ _ _ => List FeedEvent

/-- What is to be stored for a new event. -/
inductive Delivery where
  /-- One event for the inbox of each recipient. -/
  | inboxes (events : List FeedEvent)
  /-- One event for the outbox of its author. -/
  | outbox (event : FeedEvent)
  deriving DecidableEq, Repr

/-- The operations that collaborators offer. -/
inductive Operation where
  /-- Counting followers. -/
  | followerCount
  /-- Listing followers. -/
  | followers
  /-- Listing followed users. -/
  | followees
  /-- Storing pushed events. -/
  | push
  /-- Storing an event for pulling. -/
  | keep
  /-- Finding pushed events. -/
  | findPushed
  /-- Finding events for pulling. -/
  | findKept
  deriving DecidableEq, Repr

namespace Operation

/-- The name of an operation. -/
def name : Operation → String
  | followerCount => "follower_count"
  | followers => "followers"
  | followees => "followees"
  | push => "create_push"
  | keep => "create_pull"
  | findPushed => "find_push"
  | findKept => "find_pull"

/-- All operations. -/
def all : List Operation :=
  [followerCount, followers, followees, push, keep, findPushed, findKept]

/-- The operation of a name. -/
def ofName? (name : String) : Option Operation := all.find? (·.name == name)

theorem ofName?_name (o : Operation) : ofName? o.name = some o := by cases o <;> decide

/-- Who offers the operation. -/
def collaborator : Operation → Collaborator
  | followerCount => .socialGraph
  | followers => .socialGraph
  | followees => .socialGraph
  | _ => .store

end Operation

/-- A call to a collaborator. -/
inductive Call where
  /-- A question. -/
  | ask (q : Query)
  /-- A delivery. -/
  | deliver (d : Delivery)
  deriving DecidableEq, Repr

namespace Call

/-- The operation that is called. -/
def operation : Call → Operation
  | ask (.followerCount _) => .followerCount
  | ask (.followers _ _) => .followers
  | ask (.followees _ _) => .followees
  | ask (.pushed _ _ _ _) => .findPushed
  | ask (.kept _ _ _ _) => .findKept
  | deliver (.inboxes _) => .push
  | deliver (.outbox _) => .keep

/-- The tag of the kind of event that a call to the store is about; other calls and empty
deliveries are about none. -/
def tag : Call → String
  | ask (.pushed tag _ _ _) => tag
  | ask (.kept tag _ _ _) => tag
  | ask _ => ""
  | deliver (.inboxes events) => (events.head?.map (·.tag)).getD ""
  | deliver (.outbox event) => event.tag

/-- An instant as a pair of seconds and nanoseconds. -/
def instantJson (t : Instant) : List Char :=
  Json.arrayText [Text.signed t.secs, Text.digits t.nanos]

/-- The numbers of users as an array. -/
def uidsJson (uids : List Int) : List Char := Json.arrayText (uids.map Text.signed)

/-- The arguments of a call as JSON texts. -/
def arguments : Call → List (List Char)
  | ask (.followerCount uid) => [Text.signed uid]
  | ask (.followers uid limit) => [Text.signed uid, Text.digits limit]
  | ask (.followees uid limit) => [Text.signed uid, Text.digits limit]
  | ask (.pushed tag uid before limit) =>
    [Json.quote tag.toList, Text.signed uid, instantJson before, Text.digits limit]
  | ask (.kept tag uids before limit) =>
    [Json.quote tag.toList, uidsJson uids, instantJson before, Text.digits limit]
  | deliver (.inboxes events) => [uidsJson (events.map (·.uid))]
  | deliver (.outbox event) => [Text.signed event.uid]

/-- The call as a journal shows it: the name of the operation and its arguments. -/
def json (c : Call) : List Char :=
  Json.arrayText [Json.quote c.operation.name.toList, Json.arrayText c.arguments]

end Call

end ActivityFeed
