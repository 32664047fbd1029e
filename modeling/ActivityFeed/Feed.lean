import ActivityFeed.Disturbance
import ActivityFeed.Graph
import ActivityFeed.Mailbox.Store
import ActivityFeed.Service

/-!
# The feed

Everything together: the clock, who follows whom, the stored events, and the service in front of
them, with whatever disturbs its calls.

* `ActivityFeed.Feed` – the state;
* `ActivityFeed.Feed.collaborators` – what the handlers see of it;
* `ActivityFeed.Feed.create`, `ActivityFeed.Feed.timeline` – the calls of the service;
* `ActivityFeed.Feed.Result` – what a call leaves behind.

The state changes in two ways: the graph, the clock and the rows are changed directly, and a created
event is stored when its delivery was accepted in time. A delivery that comes to nothing, for
whatever reason, changes no row.
-/

namespace ActivityFeed

/-- The state of everything. -/
structure Feed where
  /-- The time of the clock. -/
  now : Instant
  /-- Who follows whom. -/
  graph : Graph
  /-- The stored events. -/
  store : Store
  /-- The handlers and the settings. -/
  service : Service
  /-- What disturbs calls, the latest rule first. -/
  disturbances : List Disturbance
  /-- The calls of the handlers, the oldest first. -/
  journal : List Call

namespace Feed

/-- A feed in which nothing has happened yet. -/
def start (service : Service) (now : Instant) : Feed := ⟨now, .empty, .empty, service, [], []⟩

/-! ### What handlers see -/

/-- The rows that answer a question to the store. -/
def rowsFor (s : Store) : Query → List Row
  | .pushed tag uid before limit => s.pushed tag uid before limit
  | .kept tag uids before limit => s.kept tag uids before limit
  | _ => []

/-- The answer to a question. -/
def answer (g : Graph) (s : Store) : (q : Query) → q.Answer
  | .followerCount uid => (g.followerCount uid : Int)
  | .followers uid limit => g.followers uid limit
  | .followees uid limit => g.followees uid limit
  | .pushed tag uid before limit => (s.pushed tag uid before limit).map Row.toEvent
  | .kept tag uids before limit => (s.kept tag uids before limit).map Row.toEvent

/-- The answer to a question, with a report of every odd row that was read. -/
def answering (g : Graph) (s : Store) (q : Query) : Work q.Answer :=
  ⟨((rowsFor s q).flatMap Row.notices).map fun n => (0, .note n), 0, .ok (answer g s q)⟩

/-- What the handlers see of the feed. -/
def collaborators (f : Feed) : Collaborators where
  now := f.now
  ask q := Disturbance.apply f.disturbances (.ask q) (answering f.graph f.store q)
  deliver d := Disturbance.apply f.disturbances (.deliver d) (.done ())

/-! ### What a call leaves behind -/

/-- What a call leaves behind. -/
structure Result (ε α : Type) where
  /-- The feed after the call. -/
  feed : Feed
  /-- What was reported. -/
  notices : List Notice
  /-- How long the call took, in milliseconds. -/
  elapsed : Nat
  /-- How the call ended. -/
  outcome : Except ε α

/-- A piece of work brought to its end: its calls go into the journal. -/
def conclude {ε α : Type} (f : Feed) (x : Timed ε α) : Result ε α :=
  ⟨{ f with journal := f.journal ++ x.trace.calls }, x.trace.notices, x.finish, x.outcome⟩

/-- The feed with a delivery stored. -/
def accept (f : Feed) : Delivery → Feed
  | .inboxes events => { f with store := f.store.push events }
  | .outbox event => { f with store := f.store.keep event }

/-- A piece of work that makes a delivery, brought to its end: a delivery that was accepted is
stored. -/
def concludeDelivery {ε : Type} (f : Feed) (x : Timed ε Delivery) : Result ε Unit :=
  let r := f.conclude x
  match r.outcome with
  | .ok d => ⟨r.feed.accept d, r.notices, r.elapsed, .ok ()⟩
  | .error e => ⟨r.feed, r.notices, r.elapsed, .error e⟩

/-! ### Calls of the service -/

/-- Creates an event. -/
def create (f : Feed) (context : CallContext) (tag : String) (bag : Bag) :
    Result (Failure ServiceError) Unit :=
  f.concludeDelivery (f.service.create f.collaborators context tag bag)

/-- Creates an event because of a command. -/
def command (f : Feed) (context : CallContext) (tag : String) (bag : Bag) :
    Result (Failure ServiceError) Unit :=
  f.concludeDelivery do
    .note .commandHandled
    f.service.create f.collaborators context tag bag

/-- Creates the event that a message reports. -/
def handle (f : Feed) (m : Message) : Result (Failure FeedError) Unit :=
  f.concludeDelivery (f.service.handle f.collaborators m)

/-- How far the handlers had come when the reading of a page was abandoned is left to chance, so
only the reports of a complete page, or of a request that was refused, are passed on. -/
def hideAbandoned (r : Result ServiceError Page) : Result ServiceError Page :=
  match r.outcome with
  | .ok _ => r
  | .error (.validation _) => r
  | .error _ => { r with notices := [] }

/-- Reads a page. -/
def timeline (f : Feed) (context : CallContext) (r : Service.Request) : Result ServiceError Page :=
  hideAbandoned (f.conclude (f.service.timeline f.collaborators context r))

/-- Reads a page because of a query. -/
def query (f : Feed) (context : CallContext) (r : Service.Request) : Result ServiceError Page :=
  hideAbandoned <| f.conclude do
    .note .queryHandled
    f.service.timeline f.collaborators context r

/-! ### Handlers by themselves -/

/-- Has the handler for a tag create an event. -/
def createWith (f : Feed) (tag : String) (bag : Bag) : Result (Failure FeedError) Unit :=
  f.concludeDelivery do
    let h ← Timed.ofExcept ((f.service.registry.get tag).mapError .error)
    h.create f.collaborators bag

/-- Has the handler for a tag find events. -/
def findWith (f : Feed) (tag : String) (uid : Int) (before : Instant) (limit : Nat) :
    Result (Failure FeedError) (List FeedEvent) :=
  f.conclude do
    let h ← Timed.ofExcept ((f.service.registry.get tag).mapError .error)
    h.find f.collaborators uid before limit

/-! ### Changes and questions from outside -/

/-- Sets the clock. -/
def setClock (f : Feed) (now : Instant) : Feed := { f with now := now }

/-- The first user follows the second from now on. -/
def follow (f : Feed) (follower followee : Int) : Feed :=
  { f with graph := f.graph.follow follower followee }

/-- The first user does not follow the second any more. -/
def unfollow (f : Feed) (follower followee : Int) : Feed :=
  { f with graph := f.graph.unfollow follower followee }

/-- The users with `count` numbers from `first` on follow a user. -/
def followAll (f : Feed) (first : Int) (count : Nat) (followee : Int) : Feed :=
  let step (g : Graph) (i : Nat) : Graph := g.follow (first + i) followee
  { f with graph := (List.range count).foldl step f.graph }

/-- Puts a row into a mailbox as it is, and tells its number. -/
def insertRow (f : Feed) (mailbox : Mailbox) (r : Row) : Feed × Nat :=
  let store := f.store.insert mailbox [r]
  ({ f with store := store }, store.issued)

/-- Asks the graph or the store, past whatever disturbs the calls of handlers. -/
def askDirectly (f : Feed) (q : Query) : List Notice × q.Answer :=
  ((rowsFor f.store q).flatMap Row.notices, answer f.graph f.store q)

/-- Adds a rule that disturbs calls. -/
def disturb (f : Feed) (d : Disturbance) : Feed := { f with disturbances := d :: f.disturbances }

/-- Removes all rules that disturb calls. -/
def calm (f : Feed) : Feed := { f with disturbances := [] }

/-- The calls since the last time, as JSON in the order of their texts, which are then
forgotten. -/
def takeJournal (f : Feed) : Feed × List String :=
  ({ f with journal := [] }, sortedTexts (f.journal.map fun c => String.ofList c.json))

end Feed

end ActivityFeed
