import ActivityFeed.Message

/-!
# The bus

Messages are broadcast to whoever listens. The bus keeps the latest messages in a ring, and every
reader has a position in the sequence of all messages. A reader who falls behind by more than the
ring holds loses the oldest messages and is told how many; the reader then goes on with the oldest
message that is left.

* `ActivityFeed.Bus`, with `subscribe`, `unsubscribe`, `publish`, `close`;
* `ActivityFeed.Bus.receive`, `ActivityFeed.Bus.drain` – reading one item, and all there are;
* `ActivityFeed.publishAll` – publishing one by one where each may fail.

While nobody listens, messages are gone at once and take no place in the sequence.
-/

namespace ActivityFeed

/-- A bus. -/
structure Bus where
  /-- The number of messages that the ring holds. -/
  ring : Nat
  /-- The number of messages so far. -/
  sent : Nat
  /-- The latest messages, the oldest first. -/
  kept : List Message
  /-- The number of messages that each reader has left behind; none for a reader who is gone. -/
  readers : List (Option Nat)
  /-- Messages can still be published. -/
  isOpen : Bool
  deriving DecidableEq, Repr

namespace Bus

/-- An item that a reader gets. -/
inductive Item where
  /-- A message. -/
  | message (m : Message)
  /-- So many messages were lost. -/
  | lagged (count : Nat)
  deriving DecidableEq, Repr

/-- What a reader meets. -/
inductive Reception where
  /-- An item. -/
  | item (i : Item)
  /-- Nothing yet. -/
  | pending
  /-- Nothing any more. -/
  | closed
  deriving DecidableEq, Repr

/-- A bus without readers, whose ring is the given capacity rounded up to a power of two. -/
def ofCapacity (capacity : Nat) : Bus := ⟨capacity.nextPowerOfTwo, 0, [], [], true⟩

/-- The number of readers. -/
def readerCount (b : Bus) : Nat := b.readers.countP Option.isSome

/-- A new reader, who gets what is published from now on, and the index of the reader. -/
def subscribe (b : Bus) : Bus × Nat :=
  ({ b with readers := b.readers ++ [some b.sent] }, b.readers.length)

/-- A reader goes. -/
def unsubscribe (b : Bus) (reader : Nat) : Bus :=
  { b with readers := b.readers.set reader none }

/-- Publishes a message. -/
def publish (b : Bus) (m : Message) : Bus :=
  if b.readerCount = 0 then b
  else
    { b with
      sent := b.sent + 1
      kept := (b.kept ++ [m]).drop (b.kept.length + 1 - b.ring) }

@[simp]
theorem readerCount_subscribe (b : Bus) : b.subscribe.1.readerCount = b.readerCount + 1 := by
  simp [subscribe, readerCount]

@[simp]
theorem readerCount_publish (b : Bus) (m : Message) :
    (b.publish m).readerCount = b.readerCount := by
  unfold publish
  split <;> rfl

/-- Publishes messages in their order. -/
def publishBatch (b : Bus) (ms : List Message) : Bus := ms.foldl publish b

/-- Nothing more will be published. -/
def close (b : Bus) : Bus := { b with isOpen := false }

/-- The position of a reader. -/
def position? (b : Bus) (reader : Nat) : Option Nat := (b.readers[reader]?).join

/-- What a reader at the given position meets, and the position afterwards. -/
def receiveAt (b : Bus) (position : Nat) : Reception × Nat :=
  let oldest := b.sent - b.kept.length
  if position < oldest then (.item (.lagged (oldest - position)), oldest)
  else
    match b.kept[position - oldest]? with
    | some m => (.item (.message m), position + 1)
    | none => (if b.isOpen then .pending else .closed, position)

/-- What a reader meets, and the bus afterwards. -/
def receive (b : Bus) (reader : Nat) : Reception × Bus :=
  match b.position? reader with
  | none => (.closed, b)
  | some position =>
    let r := b.receiveAt position
    (r.1, { b with readers := b.readers.set reader (some r.2) })

/-- Up to `fuel` items, what stands behind them, and the bus afterwards. -/
def receiveMany (b : Bus) (reader : Nat) : Nat → List Item × Reception × Bus
  | 0 => ([], b.receive reader)
  | fuel + 1 =>
    match b.receive reader with
    | (.item i, b) =>
      let r := b.receiveMany reader fuel
      (i :: r.1, r.2)
    | (r, b) => ([], r, b)

/-- All items that a reader can get now, what stands behind them, and the bus afterwards. There is
at most one item more than messages in the ring. -/
def drain (b : Bus) (reader : Nat) : List Item × Reception × Bus :=
  b.receiveMany reader (b.kept.length + 1)

end Bus

/-- Publishes messages one by one with `publish` and stops at the first failure. -/
def publishAll {σ ε : Type} (publish : σ → Message → Except ε σ) :
    List Message → σ → σ × Except ε Unit
  | [], s => (s, .ok ())
  | m :: ms, s =>
    match publish s m with
    | .ok s => publishAll publish ms s
    | .error e => (s, .error e)

end ActivityFeed
