import ActivityFeed.Kind
import ActivityFeed.Message
import ActivityFeed.Page
import ActivityFeed.Policy
import ActivityFeed.Time.Rfc3339

/-!
# JSON forms

How the types of the feed are written as JSON and read back. A type with named fields is written as
an object with its fields in their order, and read from an object in any order or from an array in
that order. Numbers are integers of 64 bits, times are texts, and bags are objects of texts.

* `ActivityFeed.FeedEvent.json`, `ActivityFeed.FeedEvent.record`;
* `ActivityFeed.PageQuery.json`, `ActivityFeed.PageQuery.record`;
* `ActivityFeed.FanoutPolicy.json`, `ActivityFeed.FanoutPolicy.record`;
* `ActivityFeed.Message.json`, `ActivityFeed.Message.record`, whose bag may be absent;
* `ActivityFeed.Kind.json`, `ActivityFeed.Kind.read`.
-/

namespace ActivityFeed

open Json

/-! ### Parts -/

/-- Reads a number that is never negative. -/
def readNat (v : Value) : Except Fault Nat := (readInt .unsigned64 v).map Int.toNat

/-- Reads a time. -/
def readInstant (v : Value) : Except Fault Instant := do
  let s ← readTextAs "an RFC 3339 formatted date and time string" v
  match Instant.ofText? s.toList with
  | some t => .ok t
  | none => .error .invalidTime

/-- Reads a bag. -/
def readBag (v : Value) : Except Fault Bag := (readTextMap v).map Bag.ofList

/-- The literal of an instant. -/
def Instant.json (t : Instant) : List Char := quote t.text

/-- The object of a bag. -/
def Bag.json (b : Bag) : List Char := textMapText b.pairs

/-- The value of a field of a draft, or the name of the field. -/
def required {α : Type} (name : String) : Option α → Except String α
  | some a => .ok a
  | none => .error name

/-! ### Events -/

namespace FeedEvent

/-- The event as an object. -/
def json (e : FeedEvent) : List Char :=
  objectText [("id", Text.signed e.id), ("uid", Text.signed e.uid),
    ("event_type", quote e.tag.toList), ("created_at", e.createdAt.json), ("ext", e.bag.json)]

/-- An event of which some fields were read. -/
structure Draft where
  /-- The number of the event. -/
  id : Option Int := none
  /-- The recipient or author. -/
  uid : Option Int := none
  /-- The tag of the kind of event. -/
  tag : Option String := none
  /-- When it happened. -/
  createdAt : Option Instant := none
  /-- What its handler wants to know. -/
  bag : Option Bag := none

/-- The event of a draft with all fields. -/
def Draft.finish (d : Draft) : Except String FeedEvent := do
  let id ← required "id" d.id
  let uid ← required "uid" d.uid
  let tag ← required "event_type" d.tag
  let createdAt ← required "created_at" d.createdAt
  let bag ← required "ext" d.bag
  .ok ⟨id, uid, tag, createdAt, bag⟩

/-- How an event is read. -/
def record : Record Draft FeedEvent where
  name := "FeedEvent"
  fields := [
    ⟨"id", (·.id.isSome), fun v d => do return { d with id := ← readInt .signed64 v }⟩,
    ⟨"uid", (·.uid.isSome), fun v d => do return { d with uid := ← readInt .signed64 v }⟩,
    ⟨"event_type", (·.tag.isSome), fun v d => do return { d with tag := ← readText v }⟩,
    ⟨"created_at", (·.createdAt.isSome),
      fun v d => do return { d with createdAt := ← readInstant v }⟩,
    ⟨"ext", (·.bag.isSome), fun v d => do return { d with bag := ← readBag v }⟩]
  blank := {}
  finish := Draft.finish

end FeedEvent

/-! ### Requests for pages -/

namespace PageQuery

/-- The request as an object. -/
def json (q : PageQuery) : List Char :=
  objectText [("uid", Text.signed q.uid), ("before", q.before.json),
    ("limit", Text.digits q.limit), ("max_limit", Text.digits q.maxLimit)]

/-- A request of which some fields were read. -/
structure Draft where
  /-- Whose timeline. -/
  uid : Option Int := none
  /-- All events on the page are earlier. -/
  before : Option Instant := none
  /-- The wanted number of events. -/
  limit : Option Nat := none
  /-- The largest number that may be wanted. -/
  maxLimit : Option Nat := none

/-- The request of a draft with all fields. -/
def Draft.finish (d : Draft) : Except String PageQuery := do
  let uid ← required "uid" d.uid
  let before ← required "before" d.before
  let limit ← required "limit" d.limit
  let maxLimit ← required "max_limit" d.maxLimit
  .ok ⟨uid, before, limit, maxLimit⟩

/-- How a request is read. -/
def record : Record Draft PageQuery where
  name := "TimelineQuery"
  fields := [
    ⟨"uid", (·.uid.isSome), fun v d => do return { d with uid := ← readInt .signed64 v }⟩,
    ⟨"before", (·.before.isSome), fun v d => do return { d with before := ← readInstant v }⟩,
    ⟨"limit", (·.limit.isSome), fun v d => do return { d with limit := ← readNat v }⟩,
    ⟨"max_limit", (·.maxLimit.isSome), fun v d => do return { d with maxLimit := ← readNat v }⟩]
  blank := {}
  finish := Draft.finish

end PageQuery

/-! ### Policies -/

namespace FanoutPolicy

/-- The policy as an object. -/
def json (p : FanoutPolicy) : List Char :=
  objectText [("fanout_threshold", Text.signed p.threshold),
    ("followee_limit", Text.digits p.followeeLimit),
    ("push_fanout_limit", Text.digits p.pushLimit)]

/-- A policy of which some fields were read. -/
structure Draft where
  /-- The largest number of followers to whom an article is pushed. -/
  threshold : Option Int := none
  /-- The number of followed authors whose articles a reader pulls. -/
  followeeLimit : Option Nat := none
  /-- The number of followers asked for when pushing. -/
  pushLimit : Option Nat := none

/-- The policy of a draft with all fields. -/
def Draft.finish (d : Draft) : Except String FanoutPolicy := do
  let threshold ← required "fanout_threshold" d.threshold
  let followeeLimit ← required "followee_limit" d.followeeLimit
  let pushLimit ← required "push_fanout_limit" d.pushLimit
  .ok ⟨threshold, followeeLimit, pushLimit⟩

/-- How a policy is read. -/
def record : Record Draft FanoutPolicy where
  name := "ArticleEventConfig"
  fields := [
    ⟨"fanout_threshold", (·.threshold.isSome),
      fun v d => do return { d with threshold := ← readInt .signed64 v }⟩,
    ⟨"followee_limit", (·.followeeLimit.isSome),
      fun v d => do return { d with followeeLimit := ← readNat v }⟩,
    ⟨"push_fanout_limit", (·.pushLimit.isSome),
      fun v d => do return { d with pushLimit := ← readNat v }⟩]
  blank := {}
  finish := Draft.finish

end FanoutPolicy

/-! ### Messages -/

namespace Message

/-- The message as an object. -/
def json (m : Message) : List Char :=
  objectText [("Type", quote m.tag.toList), ("Metadata", m.metadata.json)]

/-- A message of which some fields were read. -/
structure Draft where
  /-- The tag of the kind of event. -/
  tag : Option String := none
  /-- The fields of the event. -/
  metadata : Option Bag := none

/-- The message of a draft that has a tag; an absent bag is empty. -/
def Draft.finish (d : Draft) : Except String Message := do
  let tag ← required "Type" d.tag
  .ok ⟨tag, d.metadata.getD .empty⟩

/-- How a message is read. -/
def record : Record Draft Message where
  name := "BusinessEvent"
  fields := [
    ⟨"Type", (·.tag.isSome), fun v d => do return { d with tag := ← readText v }⟩,
    ⟨"Metadata", (·.metadata.isSome), fun v d => do return { d with metadata := ← readBag v }⟩]
  blank := {}
  finish := Draft.finish

/-- The message of a text. -/
def ofText (s : List Text.Glyph) : Except FeedError Message :=
  (read record.read s).mapError .damaged

end Message

/-! ### Kinds -/

namespace Kind

/-- The kind as a string literal. -/
def json (k : Kind) : List Char := quote k.name.toList

/-- The kind of a name that was read. -/
def ofReadName (name : String) : Except Fault Kind :=
  match ofName? name with
  | some k => .ok k
  | none => .error (.unknownVariant name (all.map Kind.name))

/-- Reads a kind: its name, or an object with its name as the only key and null as the value. -/
def read : Value → Except Fault Kind
  | .string (some name) => ofReadName name
  | .object ((some name, v) :: rest) ending => do
    let k ← ofReadName name
    readUnit v
    ending.check
    if rest.isEmpty then .ok k else .error .malformed
  | _ => .error .malformed

end Kind

end ActivityFeed
