import ActivityFeed.Message
import ActivityFeed.Page
import ActivityFeed.Registry
import ActivityFeed.Settings

/-!
# The service

What callers use: creating an event and reading a page of a timeline.

* `ActivityFeed.Service` – a registry of handlers and the settings;
* `ActivityFeed.Service.create` – hands a new event to the handler of its type;
* `ActivityFeed.Service.handle` – the same for a message of another program;
* `ActivityFeed.Service.timeline` – asks all handlers for their parts of a page and merges them.

Both calls have a deadline. A page is complete or it is an error: every handler contributes, and the
first failure or the deadline ends the whole call.
-/

namespace ActivityFeed

/-- What comes with a call beside its arguments. -/
structure CallContext where
  /-- A name for the call, to find it in the reports. -/
  requestId : Option String := none
  /-- How long the call may take, if not as long as usual. -/
  timeout : Option Nat := none
  deriving DecidableEq, Repr, Inhabited

/-- The service. -/
structure Service where
  /-- The handlers. -/
  registry : Registry
  /-- The settings. -/
  settings : Settings

namespace Service

/-- The service with the handlers of all kinds. -/
def standard (settings : Settings) : Service := ⟨.standard settings.policy, settings⟩

/-! ### Creating events -/

/-- Creates an event. The handler works in the task of the caller, who crashes with it. -/
def create (s : Service) (c : Collaborators) (context : CallContext) (tag : String) (bag : Bag) :
    Timed (Failure ServiceError) Delivery := do
  .note (.createBegun tag context.requestId)
  let handler ← Timed.ofExcept ((s.registry.get tag).mapError fun e => .error (.domain e))
  let limit := context.timeout.getD s.settings.writeTimeout
  ((handler.create c bag).mapError (.map .domain)).within limit
    (.error (.timeout "create_event" limit))

/-- The error of a created event as the bus sees it. -/
def messageError : ServiceError → FeedError
  | .domain e => e
  | e => .eventBus (e.message?.getD "")

/-- Creates the event that a message reports. -/
def handle (s : Service) (c : Collaborators) (m : Message) : Work Delivery :=
  (s.create c {} m.tag m.metadata).mapError (.map messageError)

/-! ### Reading pages -/

/-- A request for a page by a caller, who may leave the instant and the size open. -/
structure Request where
  /-- Whose timeline. -/
  uid : Int
  /-- All events on the page are earlier; the present if absent. -/
  before : Option Instant := none
  /-- The wanted number of events; the usual one if absent. -/
  limit : Option Nat := none
  deriving DecidableEq, Repr

/-- The full request. -/
def query (s : Service) (now : Instant) (r : Request) : PageQuery :=
  ⟨r.uid, r.before.getD now, r.limit.getD s.settings.defaultPageSize, s.settings.maxPageSize⟩

/-- The failure of a handler that works on a page in a task of its own. -/
def partError : Failure FeedError → ServiceError
  | .error e => .domain e
  | .crash => .crashed "timeline task failed"

/-- One handler's part of a page, which is reported when it was found. -/
def part (c : Collaborators) (q : PageQuery) (h : Handler) :
    Timed ServiceError (List FeedEvent) := do
  let events ← (h.find c q.uid q.before q.limit).mapError partError
  .note (.pagePart h.kind.tag events.length)
  return events

/-- Asks all handlers for their parts of a page, each in a task of its own. A registry without
handlers has nothing to wait for. -/
def parts (s : Service) (c : Collaborators) (limit : Nat) (q : PageQuery) :
    Timed ServiceError (List (List FeedEvent)) :=
  if s.registry.handlers.isEmpty then .done []
  else
    (Timed.gather (s.registry.handlers.map (part c q))).before limit
      (.timeout "get_timeline" limit)

/-- Reads a page. -/
def timeline (s : Service) (c : Collaborators) (context : CallContext) (r : Request) :
    Timed ServiceError Page := do
  .note (.readBegun r.uid r.limit context.requestId)
  let q := s.query c.now r
  Timed.ofExcept (q.validate.mapError fun e => .validation (e.message?.getD ""))
  let parts ← s.parts c (context.timeout.getD s.settings.readTimeout) q
  return ⟨mergeTimeline parts q.limit⟩

end Service

end ActivityFeed
