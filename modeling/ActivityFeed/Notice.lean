import ActivityFeed.Error
import ActivityFeed.Json.Compact

/-!
# Notices

What the feed reports about its own work, to whoever operates it. A notice says what happened and
with which data; how it is worded and how serious it is follows from that.

* `ActivityFeed.Notice` – the things that are reported;
* `ActivityFeed.Notice.entry` – the line that reports one of them;
* `ActivityFeed.Entry.json` – the text of such a line;
* `ActivityFeed.sortedEntries` – the lines of several notices in the order of their texts, since
  work that goes on at the same time reports in no order.

A line either reports an event by a message or says that a call of the service has begun, by the
name of the call.
-/

namespace ActivityFeed

/-- What is reported. -/
inductive Notice where
  /-- A stored text is damaged and was read as the empty bag. -/
  | damagedContent
  /-- A stored time lies beyond the calendar and was read as the beginning of 1970. -/
  | strangeTime (millis : Int)
  /-- A call to create an event has begun. -/
  | createBegun (tag : String) (requestId : Option String)
  /-- A call to read a page has begun. -/
  | readBegun (uid : Int) (limit : Option Nat) (requestId : Option String)
  /-- The call to create an event came as a command. -/
  | commandHandled
  /-- The call to read a page came as a query. -/
  | queryHandled
  /-- An article is kept with its author. -/
  | articleKept (uid followers threshold : Int)
  /-- An article is pushed to the followers of its author. -/
  | articlePushed (uid followers threshold : Int) (recipients : Nat)
  /-- The inbox of a reader and what the reader pulls were merged. -/
  | articlesMerged (uid : Int) (inbox outbox : Nat)
  /-- A handler found its part of a page. -/
  | pagePart (tag : String) (found : Nat)
  /-- Messages were put on the bus. -/
  | published (messages subscribers : Nat)
  /-- Nobody listens to the bus, so a message is gone. -/
  | messageDropped (tag : String)
  /-- A consumer listens to the bus. -/
  | consumerStarted (handler : String)
  /-- A consumer does not listen any more. -/
  | consumerStopped (handler : String)
  /-- A message could not be handled. -/
  | handlingFailed (handler tag : String) (error : FeedError)
  /-- A message took too long. -/
  | handlingTimedOut (handler tag : String) (millis : Nat)
  /-- The bus reported an error to a consumer. -/
  | busFailed (error : FeedError)
  deriving DecidableEq, Repr

/-- How serious a notice is. -/
inductive Level where
  /-- A detail. -/
  | debug
  /-- The usual course. -/
  | info
  /-- Something odd that was dealt with. -/
  | warn
  /-- Something failed. -/
  | error
  deriving DecidableEq, Repr

/-- The name of a level. -/
def Level.name : Level → String
  | .debug => "DEBUG"
  | .info => "INFO"
  | .warn => "WARN"
  | .error => "ERROR"

/-- What a line is about. -/
inductive Subject where
  /-- An event, in words. -/
  | message (text : String)
  /-- The beginning of a call, by its name. -/
  | call (name : String)
  deriving DecidableEq, Repr

/-- A datum of a line. -/
inductive Datum where
  /-- A number. -/
  | number (n : Int)
  /-- A text. -/
  | text (s : String)
  deriving DecidableEq, Repr

/-- A line that reports something. -/
structure Entry where
  /-- How serious it is. -/
  level : Level
  /-- What it is about. -/
  subject : Subject
  /-- The data by name, in the order of the names. -/
  data : List (String × Datum)
  deriving DecidableEq, Repr

namespace Entry

/-- A datum as JSON. -/
def datumJson : Datum → List Char
  | .number n => Text.signed n
  | .text s => Json.quote s.toList

/-- The line as JSON. -/
def json (e : Entry) : List Char :=
  let data := Json.objectText (e.data.map fun d => (d.1, datumJson d.2))
  let level := Json.quote e.level.name.toList
  match e.subject with
  | .message text =>
    Json.objectText [("fields", data), ("level", level), ("message", Json.quote text.toList)]
  | .call name =>
    Json.objectText [("fields", data), ("level", level), ("span", Json.quote name.toList)]

end Entry

namespace Notice

/-- A datum that may be absent. -/
def optional (name : String) (d : Option Datum) : List (String × Datum) :=
  (d.map fun d => (name, d)).toList

/-- The line that reports a notice. -/
def entry : Notice → Entry
  | damagedContent => ⟨.warn, .message "tolerating malformed feed event content", []⟩
  | strangeTime millis =>
    ⟨.warn, .message "tolerating out-of-range feed event ctime", [("ctime", .number millis)]⟩
  | createBegun tag requestId =>
    ⟨.info, .call "feed.create_event",
      ("event_type", .text tag) :: optional "request_id" (requestId.map .text)⟩
  | readBegun uid limit requestId =>
    ⟨.info, .call "feed.get_timeline",
      optional "limit" (limit.map fun n => .number n) ++
        optional "request_id" (requestId.map .text) ++ [("uid", .number uid)]⟩
  | commandHandled =>
    ⟨.debug, .message "handling command", [("command", .text "CreateFeedEvent")]⟩
  | queryHandled => ⟨.debug, .message "handling query", [("query", .text "GetTimeline")]⟩
  | articleKept uid followers threshold =>
    ⟨.debug, .message "hub account, writing article to outbox",
      [("follower_count", .number followers), ("threshold", .number threshold),
        ("uid", .number uid)]⟩
  | articlePushed uid followers threshold recipients =>
    ⟨.debug, .message "fanning article out to follower inboxes",
      [("follower_count", .number followers), ("recipients", .number recipients),
        ("threshold", .number threshold), ("uid", .number uid)]⟩
  | articlesMerged uid inbox outbox =>
    ⟨.debug, .message "merged article sources",
      [("inbox", .number inbox), ("outbox", .number outbox), ("uid", .number uid)]⟩
  | pagePart tag found =>
    ⟨.debug, .message "handler page collected",
      [("event_type", .text tag), ("found", .number found)]⟩
  | published messages subscribers =>
    ⟨.debug, .message "business events published",
      [("events", .number messages), ("subscribers", .number subscribers)]⟩
  | messageDropped tag =>
    ⟨.debug, .message "no subscriber, business event dropped", [("event_type", .text tag)]⟩
  | consumerStarted handler =>
    ⟨.info, .message "event consumer started", [("handler", .text handler)]⟩
  | consumerStopped handler =>
    ⟨.info, .message "event consumer stopped", [("handler", .text handler)]⟩
  | handlingFailed handler tag error =>
    ⟨.error, .message "failed to handle business event",
      [("error", .text (error.message?.getD "")), ("event_type", .text tag),
        ("handler", .text handler)]⟩
  | handlingTimedOut handler tag millis =>
    ⟨.error, .message "business event handling timed out",
      [("event_type", .text tag), ("handler", .text handler), ("timeout_ms", .number millis)]⟩
  | busFailed error =>
    ⟨.warn, .message "event bus error, skipping", [("error", .text (error.message?.getD ""))]⟩

end Notice

/-- Texts in ascending order. -/
def sortedTexts (texts : List String) : List String := texts.mergeSort fun a b => decide (a ≤ b)

/-- The lines of several notices as JSON, in the order of their texts. -/
def sortedEntries (notices : List Notice) : List String :=
  sortedTexts (notices.map fun n => String.ofList n.entry.json)

end ActivityFeed
