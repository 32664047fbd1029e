import ActivityFeed.Bus
import ActivityFeed.Feed

/-!
# Consumers

A consumer listens to the bus and hands every message to a handler, one after the other. Each
message has a deadline of its own. A message that fails or takes too long, or an error of the bus,
is reported, and the consumer goes on with the next; it ends only when it is told to, when the bus
is gone, or when the handler takes it along in a crash, of which nothing is reported.

* `ActivityFeed.Loop` and `ActivityFeed.Loop.step` – the course of a consumer, signal by signal;
* `ActivityFeed.Spy.handle` – a handler that only shows what it is given;
* `ActivityFeed.Consumer` – a consumer with its bus and what it works for;
* `ActivityFeed.Consumer.publish` – publishes messages and lets the consumer deal with them.

A request to stop is looked at between messages only, so a message that is being handled comes to
its own end.
-/

namespace ActivityFeed

/-! ### The course of a consumer -/

/-- How the handling of a message ends. -/
inductive Handling where
  /-- As it should. -/
  | succeeded
  /-- With an error. -/
  | failed (e : FeedError)
  /-- At its deadline. -/
  | timedOut
  deriving DecidableEq, Repr

/-- What a consumer is doing. -/
inductive Phase where
  /-- Waiting for an item. -/
  | waiting
  /-- Handling a message. -/
  | handling (m : Message)
  /-- Nothing any more. -/
  | stopped
  deriving DecidableEq, Repr

/-- A consumer in its course. -/
structure Loop where
  /-- What it is doing. -/
  phase : Phase
  /-- It was asked to stop. -/
  cancelled : Bool
  /-- The messages whose handling has begun, the oldest first. -/
  begun : List Message
  deriving DecidableEq, Repr

/-- What can happen to a consumer. -/
inductive Signal where
  /-- The bus delivers an item. -/
  | item (i : Bus.Item)
  /-- The handling of a message ends. -/
  | settled (h : Handling)
  /-- The handling of a message crashes. -/
  | crash
  /-- Somebody asks the consumer to stop. -/
  | cancel
  /-- The consumer looks whether it was asked to stop. -/
  | look
  /-- The bus is gone. -/
  | endOfStream
  deriving DecidableEq, Repr

namespace Loop

/-- A consumer that has just begun to listen. -/
def start : Loop := ⟨.waiting, false, []⟩

/-- The consumer after a signal, if the signal can come. -/
def step (l : Loop) : Signal → Option Loop
  | .item (.message m) =>
    if l.phase = .waiting then
      some { l with phase := .handling m, begun := l.begun ++ [m] }
    else none
  | .item (.lagged _) => if l.phase = .waiting then some l else none
  | .settled _ =>
    match l.phase with
    | .handling _ => some { l with phase := .waiting }
    | _ => none
  | .crash =>
    match l.phase with
    | .handling _ => some { l with phase := .stopped }
    | _ => none
  | .cancel => some { l with cancelled := true }
  | .look =>
    if l.phase = .waiting ∧ l.cancelled = true then some { l with phase := .stopped } else none
  | .endOfStream => if l.phase = .waiting then some { l with phase := .stopped } else none

/-- The consumer after several signals, if they can come in this order. -/
def run (l : Loop) : List Signal → Option Loop
  | [] => some l
  | s :: ss => (l.step s).bind fun l => l.run ss

theorem run_append (l : Loop) (ss ts : List Signal) :
    l.run (ss ++ ts) = (l.run ss).bind fun l => l.run ts := by
  induction ss generalizing l with
  | nil => rfl
  | cons s ss ih =>
    simp only [List.cons_append, run]
    cases l.step s with
    | none => rfl
    | some l => exact ih l

end Loop

/-! ### A handler that only shows what it is given -/

namespace Spy

/-- How long a message asks to be handled, in milliseconds. -/
def delay (m : Message) : Nat :=
  match m.metadata.get? "delay_ms" with
  | none => 0
  | some text =>
    match Text.readInteger .unsigned64 text.toList with
    | .ok n => n.toNat
    | .error _ => 0

/-- Handles a message: waits as long as the message asks for, and fails if it asks for that. -/
def handle (m : Message) : Work Unit :=
  match m.metadata.get? "fail" with
  | some reason => ⟨[], delay m, .error (.error (.unavailable .store reason))⟩
  | none => ⟨[], delay m, .ok ()⟩

end Spy

/-! ### A consumer at work -/

/-- What a consumer hands messages to. -/
inductive MessageHandler where
  /-- The service, which creates events. -/
  | service
  /-- A handler that only shows what it is given. -/
  | spy
  deriving DecidableEq, Repr

/-- The name of a handler in reports. -/
def MessageHandler.name : MessageHandler → String
  | .service => "feed_service"
  | .spy => "spy"

/-- A consumer with its bus and what it works for. -/
structure Consumer where
  /-- The bus. -/
  bus : Bus
  /-- What the service works on. -/
  feed : Feed
  /-- What messages are handed to. -/
  handler : MessageHandler
  /-- How long handling a message may take, in milliseconds. -/
  messageTimeout : Nat
  /-- The consumer in its course, with its reader on the bus, if it was started. -/
  loop : Option (Nat × Loop)

namespace Consumer

/-- Messages that were handled in some time, and what was reported. -/
structure Activity where
  /-- The messages whose handling began. -/
  started : List Message := []
  /-- The messages that were handled as they should. -/
  handled : List Message := []
  /-- What was reported. -/
  notices : List Notice := []

/-- Two spans of time as one. -/
def Activity.append (a b : Activity) : Activity :=
  ⟨a.started ++ b.started, a.handled ++ b.handled, a.notices ++ b.notices⟩

/-- A consumer that was not started. -/
def create (capacity : Nat) (feed : Feed) (handler : MessageHandler) (messageTimeout : Nat) :
    Consumer :=
  ⟨.ofCapacity capacity, feed, handler, messageTimeout, none⟩

/-- The work of handling a message, which fails without a cause of its own at its deadline. -/
def limited {α : Type} (c : Consumer) (x : Work α) : Timed (Option (Failure FeedError)) α :=
  (x.mapError some).within c.messageTimeout none

/-- What the end of the handling of a message means for the consumer. -/
def endingOf {α : Type} : Except (Option (Failure FeedError)) α → Signal
  | .ok _ => .settled .succeeded
  | .error none => .settled .timedOut
  | .error (some (.error e)) => .settled (.failed e)
  | .error (some .crash) => .crash

/-- What is reported when the handling of a message has ended. -/
def endingNotices (c : Consumer) (m : Message) : Signal → List Notice
  | .settled (.failed e) => [.handlingFailed c.handler.name m.tag e]
  | .settled .timedOut => [.handlingTimedOut c.handler.name m.tag c.messageTimeout]
  | _ => []

/-- Handles one message within its deadline: the feed afterwards, what was reported, and how it
ended. -/
def handleMessage (c : Consumer) (m : Message) : Feed × List Notice × Signal :=
  match c.handler with
  | .service =>
    let r := c.feed.concludeDelivery (c.limited (c.feed.service.handle c.feed.collaborators m))
    (r.feed, r.notices, endingOf r.outcome)
  | .spy =>
    let r := c.feed.conclude (c.limited (Spy.handle m))
    (r.feed, r.notices, endingOf r.outcome)

/-- The consumer after a signal to its course. -/
def signal (c : Consumer) (s : Signal) : Consumer :=
  { c with loop := c.loop.map fun l => (l.1, (l.2.step s).getD l.2) }

/-- The consumer does not listen any more. -/
def leave (c : Consumer) : Consumer :=
  match c.loop with
  | none => c
  | some (reader, _) => { c with bus := c.bus.unsubscribe reader, loop := none }

/-- Deals with one item of the bus. -/
def consume (c : Consumer) : Bus.Item → Consumer × Activity
  | .lagged count =>
    (c.signal (.item (.lagged count)), { notices := [.busFailed (.lagged count)] })
  | .message m =>
    let (feed, notices, ending) := c.handleMessage m
    let c := { (c.signal (.item (.message m))).signal ending with feed := feed }
    (if ending = .crash then c.leave else c,
      { started := [m]
        handled := if ending = .settled .succeeded then [m] else []
        notices := notices ++ c.endingNotices m ending })

/-- Deals with several items in their order, as long as the consumer listens. -/
def consumeAll (c : Consumer) : List Bus.Item → Consumer × Activity
  | [] => (c, {})
  | i :: is =>
    if c.loop.isNone then (c, {})
    else
      let (c, a) := c.consume i
      let (c, b) := c.consumeAll is
      (c, a.append b)

/-- Deals with everything that is on the bus. -/
def settle (c : Consumer) : Consumer × Activity :=
  match c.loop with
  | none => (c, {})
  | some (reader, _) =>
    let (items, _, bus) := c.bus.drain reader
    { c with bus := bus }.consumeAll items

/-- What is reported when messages are published. -/
def publishNotices (c : Consumer) (ms : List Message) : List Notice :=
  (if c.bus.readerCount = 0 then ms.map fun m => .messageDropped m.tag else []) ++
    [.published ms.length c.bus.readerCount]

/-- Publishes messages in one piece, and then lets the consumer deal with them. -/
def publish (c : Consumer) (ms : List Message) : Consumer × Activity :=
  let notices := c.publishNotices ms
  let (c, a) := { c with bus := c.bus.publishBatch ms }.settle
  (c, { a with notices := notices ++ a.notices })

/-- Stops the consumer, if it runs. -/
def shutdown (c : Consumer) : Consumer × List Notice :=
  match c.loop with
  | none => (c, [])
  | some _ => (((c.signal .cancel).signal .look).leave, [.consumerStopped c.handler.name])

/-- Starts the consumer. One that runs already is stopped. -/
def start (c : Consumer) : Consumer × List Notice :=
  let (c, stopped) := c.shutdown
  let (bus, reader) := c.bus.subscribe
  ({ c with bus := bus, loop := some (reader, .start) },
    stopped ++ [.consumerStarted c.handler.name])

end Consumer

end ActivityFeed
