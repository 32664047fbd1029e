import ActivityFeed.Bus
import ActivityFeed.Error
import Mathlib.Algebra.GroupWithZero.Nat

/-!
# What a reader of the bus gets

All readers share one ring, and each has only a position in the sequence of all messages. This file
says what that comes to for a single reader, whatever the others do meanwhile: the reader has a
backlog of unread messages (`ActivityFeed.Bus.Backlog`), to which every published message is added
and from which every reception takes the oldest message – unless there are more of them than the
ring holds, in which case the oldest are replaced by one error that counts them.

* `ActivityFeed.Bus.Act`, `ActivityFeed.Bus.run` – things that are done with a bus, in any order;
* `ActivityFeed.Bus.Holds` – the invariant of the bus: it keeps the end of all that was sent;
* `ActivityFeed.Bus.Tracks` – the bus and a reader on it, together with the backlog of the reader;
* `ActivityFeed.Bus.Accounts` – items account for messages: each of them was met, or counted as
  lost, or is still unread;
* `ActivityFeed.Bus.reader_accounts` – all of it, for every run.

A batch is published message by message. A batch that others interrupt, by publishing, by reading
or by listening from the middle of it on, is a run in which its messages stand apart.
-/

namespace ActivityFeed

namespace Bus

/-! ### Runs -/

/-- Something that is done with a bus. -/
inductive Act where
  /-- Somebody begins to listen. -/
  | subscribe
  /-- A reader goes. -/
  | unsubscribe (reader : ℕ)
  /-- A message is published. -/
  | publish (m : Message)
  /-- Messages are published in one piece. -/
  | publishBatch (ms : List Message)
  /-- A reader asks for the next item. -/
  | receive (reader : ℕ)
  /-- Nothing more will be published. -/
  | close
  deriving DecidableEq, Repr

/-- The messages that are published. -/
def Act.published : Act → List Message
  | .publish m => [m]
  | .publishBatch ms => ms
  | .subscribe => []
  | .unsubscribe _ => []
  | .receive _ => []
  | .close => []

/-- A batch as its messages one by one; anything else as it is. -/
def Act.oneByOne : Act → List Act
  | .publishBatch ms => ms.map .publish
  | a => [a]

/-- The bus after something was done with it. -/
def perform (b : Bus) : Act → Bus
  | .subscribe => b.subscribe.1
  | .unsubscribe reader => b.unsubscribe reader
  | .publish m => b.publish m
  | .publishBatch ms => b.publishBatch ms
  | .receive reader => (b.receive reader).2
  | .close => b.close

/-- The bus after several things were done with it. -/
def run (b : Bus) (acts : List Act) : Bus := acts.foldl perform b

/-- What one of the readers meets while things are done with the bus. -/
def met (reader : ℕ) : Bus → List Act → List Reception
  | _, [] => []
  | b, a :: acts =>
    (if a = .receive reader then [(b.receive reader).1] else []) ++ met reader (b.perform a) acts

/-- The item of a reception, if there was one. -/
def Reception.item? : Reception → Option Item
  | .item i => some i
  | _ => none

/-- What an item is to a reader: a message, or an error of the bus that tells how many were lost. -/
def Item.answer : Item → Except FeedError Message
  | .message m => .ok m
  | .lagged count => .error (.lagged count)

/-- How many messages an item takes a reader on. -/
def Item.count : Item → ℕ
  | .message _ => 1
  | .lagged count => count

/-! ### The backlog of a reader -/

/-- What lies before one reader. -/
structure Backlog where
  /-- The messages that the reader has not met, the oldest first. -/
  unread : List Message
  /-- Messages can still be published. -/
  isOpen : Bool
  deriving DecidableEq, Repr

namespace Backlog

/-- What the reader meets next, and the backlog afterwards. Where more messages are unread than the
ring holds, the oldest of them are lost, and the reader is told how many. -/
def receive (ring : ℕ) (l : Backlog) : Reception × Backlog :=
  if ring < l.unread.length then
    let lost := l.unread.length - ring
    (.item (.lagged lost), { l with unread := l.unread.drop lost })
  else
    match l.unread with
    | m :: ms => (.item (.message m), { l with unread := ms })
    | [] => (if l.isOpen then .pending else .closed, l)

/-- **All that a reception can be**: the oldest messages are lost, the oldest message is met, or
there is nothing to meet. -/
theorem receive_cases (ring : ℕ) (l : Backlog) :
    (∃ lost rest, l.unread = lost ++ rest ∧ lost ≠ [] ∧
      l.receive ring = (.item (.lagged lost.length), { l with unread := rest })) ∨
    (∃ m rest, l.unread = m :: rest ∧
      l.receive ring = (.item (.message m), { l with unread := rest })) ∨
    (l.unread = [] ∧ l.receive ring = (if l.isOpen then .pending else .closed, l)) := by
  unfold receive
  split
  · rename_i hlost
    have hcount : (l.unread.take (l.unread.length - ring)).length = l.unread.length - ring := by
      rw [List.length_take]
      omega
    refine .inl ⟨l.unread.take (l.unread.length - ring), l.unread.drop (l.unread.length - ring),
      (List.take_append_drop _ _).symm, fun hnil => ?_, by rw [hcount]⟩
    rw [hnil, List.length_nil] at hcount
    omega
  · refine .inr ?_
    cases hl : l.unread with
    | nil => exact .inr ⟨rfl, rfl⟩
    | cons m rest => exact .inl ⟨m, rest, rfl, rfl⟩

/-- A reception takes from the front of the backlog and leaves it open or closed as it was. -/
theorem receive_suffix (ring : ℕ) (l : Backlog) :
    (l.receive ring).2.unread <:+ l.unread ∧ (l.receive ring).2.isOpen = l.isOpen := by
  rcases l.receive_cases ring with ⟨lost, rest, hl, -, hr⟩ | ⟨m, rest, hl, hr⟩ | ⟨-, hr⟩
  · exact ⟨⟨lost, by rw [hl, hr]⟩, by rw [hr]⟩
  · exact ⟨⟨[m], by rw [hl, hr]; rfl⟩, by rw [hr]⟩
  · exact ⟨⟨[], by rw [hr]; rfl⟩, by rw [hr]⟩

/-- The backlog after something was done with the bus. -/
def perform (ring reader : ℕ) (l : Backlog) : Act → Backlog
  | .publish m => { l with unread := l.unread ++ [m] }
  | .publishBatch ms => { l with unread := l.unread ++ ms }
  | .receive r => if r = reader then (l.receive ring).2 else l
  | .close => { l with isOpen := false }
  | .subscribe => l
  | .unsubscribe _ => l

/-- The backlog after several things were done with the bus. -/
def run (ring reader : ℕ) (l : Backlog) (acts : List Act) : Backlog :=
  acts.foldl (perform ring reader) l

/-- What the reader meets while things are done with the bus. -/
def met (ring reader : ℕ) : Backlog → List Act → List Reception
  | _, [] => []
  | l, a :: acts =>
    (if a = .receive reader then [(l.receive ring).1] else []) ++
      met ring reader (l.perform ring reader a) acts

end Backlog

/-! ### What the bus keeps -/

/-- **The bus holds the end of a log**: of all messages that were sent it keeps the latest, as many
as the ring takes. -/
structure Holds (b : Bus) (log : List Message) : Prop where
  /-- The log is as long as messages were sent. -/
  sent : b.sent = log.length
  /-- The ring holds its end. -/
  kept : b.kept = log.drop (log.length - b.ring)
  /-- The ring holds something. -/
  ring : 0 < b.ring

theorem holds_ofCapacity (capacity : ℕ) : Holds (ofCapacity capacity) [] where
  sent := rfl
  kept := List.drop_nil.symm
  ring := Nat.pos_of_isPowerOfTwo (Nat.isPowerOfTwo_nextPowerOfTwo capacity)

/-- A reader who listens is counted. -/
theorem readerCount_ne_zero {b : Bus} {reader place : ℕ} (h : b.position? reader = some place) :
    b.readerCount ≠ 0 := by
  have hmem : some place ∈ b.readers := List.mem_of_getElem? (Option.join_eq_some_iff.mp h)
  exact Nat.ne_of_gt (List.countP_pos_iff.mpr ⟨_, hmem, rfl⟩)

/-- A reception changes nothing but the place of the reader. -/
theorem receive_frame (b : Bus) (reader : ℕ) :
    ∃ readers, (b.receive reader).2 = { b with readers := readers } := by
  unfold receive
  split
  · exact ⟨b.readers, rfl⟩
  · exact ⟨_, rfl⟩

namespace Holds

variable {b : Bus} {log : List Message}

theorem length_kept (h : Holds b log) : b.kept.length = min b.ring log.length := by
  rw [h.kept, List.length_drop]
  omega

/-- Publishing a message adds it to the log, where anybody listens. -/
theorem publish (h : Holds b log) (hr : b.readerCount ≠ 0) (m : Message) :
    Holds (b.publish m) (log ++ [m]) := by
  have hkept := h.length_kept
  have hring := h.ring
  unfold Bus.publish
  rw [if_neg hr]
  refine ⟨?_, ?_, hring⟩
  · rw [List.length_append, h.sent, List.length_singleton]
  · -- what was kept and the new message, less the oldest if the ring was full
    have hold : b.kept ++ [m] = (log ++ [m]).drop (log.length - b.ring) := by
      rw [h.kept, List.drop_append_of_le_length (Nat.sub_le _ _)]
    simp only
    rw [hold, List.drop_drop, List.length_append, List.length_singleton]
    congr 1
    omega

theorem publishBatch (h : Holds b log) (hr : b.readerCount ≠ 0) (ms : List Message) :
    Holds (b.publishBatch ms) (log ++ ms) := by
  induction ms generalizing b log with
  | nil => rwa [List.append_nil]
  | cons m ms ih =>
    have hm := ih (h.publish hr m) (by rwa [readerCount_publish])
    rwa [List.append_assoc] at hm

theorem of_receive (h : Holds b log) (reader : ℕ) : Holds (b.receive reader).2 log := by
  obtain ⟨readers, hr⟩ := receive_frame b reader
  rw [hr]
  exact ⟨h.sent, h.kept, h.ring⟩

/-- **Whatever is done with the bus**, it goes on holding the end of a log. Messages that nobody is
there to hear are not part of it. -/
theorem perform (h : Holds b log) (a : Act) :
    Holds (b.perform a) (log ++ if b.readerCount = 0 then [] else a.published) := by
  have hsame : Holds b (log ++ if b.readerCount = 0 then [] else []) := by
    rwa [ite_self, List.append_nil]
  cases a with
  | publish m =>
    split
    · rename_i hr
      rw [List.append_nil, Bus.perform, Bus.publish, if_pos hr]
      exact h
    · rename_i hr
      exact h.publish hr m
  | publishBatch ms =>
    split
    · rename_i hr
      have hbatch : b.publishBatch ms = b := by
        induction ms with
        | nil => rfl
        | cons m ms ih =>
          have hm : b.publish m = b := by rw [Bus.publish, if_pos hr]
          rw [Bus.publishBatch, List.foldl_cons, hm]
          exact ih
      rw [List.append_nil, Bus.perform, hbatch]
      exact h
    · rename_i hr
      exact h.publishBatch hr ms
  | receive reader => exact hsame.of_receive reader
  | subscribe => exact ⟨hsame.sent, hsame.kept, hsame.ring⟩
  | unsubscribe reader => exact ⟨hsame.sent, hsame.kept, hsame.ring⟩
  | close => exact ⟨hsame.sent, hsame.kept, hsame.ring⟩

theorem run (h : Holds b log) (acts : List Act) : ∃ log', Holds (b.run acts) log' := by
  induction acts generalizing b log with
  | nil => exact ⟨log, h⟩
  | cons a acts ih => exact ih (h.perform a)

end Holds

/-! ### The place of a reader -/

theorem position?_set (b : Bus) (reader r : ℕ) (place : Option ℕ) :
    { b with readers := b.readers.set r place }.position? reader =
      if r = reader ∧ r < b.readers.length then place else b.position? reader := by
  rw [position?, position?, List.getElem?_set]
  by_cases hr : r = reader
  · subst hr
    by_cases hlt : r < b.readers.length
    · simp [hlt]
    · simp [hlt]
  · simp [hr]

theorem lt_length_of_position? {b : Bus} {reader place : ℕ}
    (h : b.position? reader = some place) : reader < b.readers.length :=
  (List.getElem?_eq_some_iff.mp (Option.join_eq_some_iff.mp h)).1

theorem position?_publish (b : Bus) (m : Message) (reader : ℕ) :
    (b.publish m).position? reader = b.position? reader := by
  unfold publish
  split <;> rfl

@[simp]
theorem isOpen_publish (b : Bus) (m : Message) : (b.publish m).isOpen = b.isOpen := by
  unfold publish
  split <;> rfl

@[simp]
theorem isOpen_publishBatch (b : Bus) (ms : List Message) :
    (b.publishBatch ms).isOpen = b.isOpen := by
  induction ms generalizing b with
  | nil => rfl
  | cons m ms ih => exact (ih (b.publish m)).trans (isOpen_publish b m)

@[simp]
theorem ring_publish (b : Bus) (m : Message) : (b.publish m).ring = b.ring := by
  unfold publish
  split <;> rfl

@[simp]
theorem ring_publishBatch (b : Bus) (ms : List Message) : (b.publishBatch ms).ring = b.ring := by
  induction ms generalizing b with
  | nil => rfl
  | cons m ms ih => exact (ih (b.publish m)).trans (ring_publish b m)

/-- The ring keeps its size. -/
theorem ring_perform (b : Bus) (a : Act) : (b.perform a).ring = b.ring := by
  cases a with
  | subscribe => rfl
  | unsubscribe reader => rfl
  | publish m => exact ring_publish b m
  | publishBatch ms => exact ring_publishBatch b ms
  | receive reader =>
    obtain ⟨readers, hr⟩ := receive_frame b reader
    rw [perform, hr]
  | close => rfl

theorem ring_run (b : Bus) (acts : List Act) : (b.run acts).ring = b.ring := by
  induction acts generalizing b with
  | nil => rfl
  | cons a acts ih => exact (ih (b.perform a)).trans (ring_perform b a)

theorem position?_publishBatch (b : Bus) (ms : List Message) (reader : ℕ) :
    (b.publishBatch ms).position? reader = b.position? reader := by
  induction ms generalizing b with
  | nil => rfl
  | cons m ms ih => exact (ih (b.publish m)).trans (position?_publish b m reader)

/-- The next reader is a new one, who has left behind whatever was sent so far. -/
theorem position?_subscribe_self (b : Bus) :
    b.subscribe.1.position? b.subscribe.2 = some b.sent := by
  simp [subscribe, position?]

/-- **Nothing but its own receptions moves a reader** who does not go. -/
theorem position?_perform {b : Bus} {reader place : ℕ} (h : b.position? reader = some place)
    {a : Act} (hu : a ≠ .unsubscribe reader) (hr : a ≠ .receive reader) :
    (b.perform a).position? reader = some place := by
  have hlt := lt_length_of_position? h
  cases a with
  | subscribe =>
    rw [position?] at h
    rw [perform, subscribe, position?, List.getElem?_append_left hlt, h]
  | unsubscribe r =>
    have hne : ¬(r = reader ∧ r < b.readers.length) := fun he => hu (congrArg _ he.1)
    rw [perform, unsubscribe, position?_set, if_neg hne, h]
  | publish m => rw [perform, position?_publish, h]
  | publishBatch ms => rw [perform, position?_publishBatch, h]
  | receive r =>
    have hne : ¬(r = reader ∧ r < b.readers.length) := fun he => hr (congrArg _ he.1)
    rw [perform, receive]
    split
    · exact h
    · rw [position?_set, if_neg hne, h]
  | close => exact h

/-! ### The bus and one reader -/

/-- **The bus tracks a backlog**: what the reader has not met is the end of the log, and the reader
stands in front of it. -/
structure Tracks (b : Bus) (log : List Message) (reader : ℕ) (l : Backlog) : Prop where
  /-- The bus holds the log. -/
  holds : Holds b log
  /-- The backlog is its end. -/
  unread : l.unread <:+ log
  /-- The reader has left the rest behind. -/
  place : b.position? reader = some (log.length - l.unread.length)
  /-- The bus and the backlog are closed at the same time. -/
  isOpen : l.isOpen = b.isOpen

namespace Tracks

variable {b : Bus} {log : List Message} {reader : ℕ} {l : Backlog}

/-- A new reader has no backlog. -/
theorem subscribe (h : Holds b log) :
    Tracks b.subscribe.1 log b.subscribe.2 ⟨[], b.isOpen⟩ where
  holds := ⟨h.sent, h.kept, h.ring⟩
  unread := List.nil_suffix
  place := by rw [position?_subscribe_self, h.sent, List.length_nil, Nat.sub_zero]
  isOpen := rfl

/-- What the reader meets on the bus, and where, is what the backlog says. -/
theorem receiveAt_eq (h : Tracks b log reader l) :
    b.receiveAt (log.length - l.unread.length) = ((l.receive b.ring).1,
      log.length - (l.receive b.ring).2.unread.length) := by
  obtain ⟨front, hfront⟩ := h.unread
  have hkept := h.holds.length_kept
  have hlen : log.length = front.length + l.unread.length := by
    rw [← hfront, List.length_append]
  have holdest : b.sent - b.kept.length = log.length - b.ring := by
    rw [h.holds.sent, hkept]
    omega
  have hplace : log.length - l.unread.length = front.length := by omega
  rw [receiveAt, Backlog.receive, holdest, hplace]
  by_cases hlost : b.ring < l.unread.length
  · -- the reader has fallen behind the ring
    have hbehind : front.length < log.length - b.ring := by omega
    have hcount : log.length - b.ring - front.length = l.unread.length - b.ring := by omega
    simp only [if_pos hlost, if_pos hbehind, hcount, List.length_drop, Prod.mk.injEq, true_and]
    omega
  · have hahead : ¬front.length < log.length - b.ring := by omega
    have hnext : b.kept[front.length - (log.length - b.ring)]? = l.unread[0]? := by
      have hindex : log.length - b.ring + (front.length - (log.length - b.ring)) =
          front.length := by omega
      rw [h.holds.kept, List.getElem?_drop, hindex, ← hfront, List.getElem?_append_right
        (Nat.le_refl _), Nat.sub_self]
    simp only [if_neg hlost, if_neg hahead, hnext]
    cases hunread : l.unread with
    | nil =>
      rw [hunread, List.length_nil] at hlen
      simp only [List.getElem?_nil, h.isOpen, hunread, List.length_nil, Prod.mk.injEq, true_and]
      omega
    | cons m ms =>
      rw [hunread, List.length_cons] at hlen
      simp only [List.getElem?_cons_zero, Prod.mk.injEq, true_and]
      omega

/-- **A reception by the reader** is what the backlog says, and the bus goes on tracking it. -/
theorem receive (h : Tracks b log reader l) :
    (b.receive reader).1 = (l.receive b.ring).1 ∧
      Tracks (b.receive reader).2 log reader (l.receive b.ring).2 := by
  have hat := h.receiveAt_eq
  have hplace : (b.receive reader).2.position? reader =
      some (b.receiveAt (log.length - l.unread.length)).2 := by
    have hlt := lt_length_of_position? h.place
    simp only [Bus.receive, h.place]
    rw [position?_set, if_pos ⟨rfl, hlt⟩]
  refine ⟨?_, h.holds.of_receive reader, (l.receive_suffix b.ring).1.trans h.unread, ?_, ?_⟩
  · simp only [Bus.receive, h.place, hat]
  · rw [hplace, hat]
  · obtain ⟨readers, hr⟩ := receive_frame b reader
    rw [(l.receive_suffix b.ring).2, hr]
    exact h.isOpen

/-- What is published comes behind the backlog of every reader. -/
theorem append (h : Tracks b log reader l) {b' : Bus} {ms : List Message}
    (hb : Holds b' (log ++ ms)) (hp : b'.position? reader = b.position? reader)
    (ho : b'.isOpen = b.isOpen) :
    Tracks b' (log ++ ms) reader { l with unread := l.unread ++ ms } where
  holds := hb
  unread := by
    obtain ⟨front, hfront⟩ := h.unread
    exact ⟨front, by rw [← List.append_assoc, hfront]⟩
  place := by
    rw [hp, h.place, List.length_append, List.length_append]
    congr 1
    omega
  isOpen := h.isOpen.trans ho.symm

/-- Where nothing is published and the reader stays, the backlog is what it was. -/
theorem of_frame (h : Tracks b log reader l) {readers : List (Option ℕ)}
    (hp : { b with readers := readers }.position? reader = b.position? reader) :
    Tracks { b with readers := readers } (log ++ []) reader l := by
  rw [List.append_nil]
  exact ⟨⟨h.holds.sent, h.holds.kept, h.holds.ring⟩, h.unread, hp.trans h.place, h.isOpen⟩

/-- **Whatever is done with the bus**, it goes on tracking the backlog, as long as the reader does
not go. -/
theorem perform (h : Tracks b log reader l) {a : Act} (hu : a ≠ .unsubscribe reader) :
    Tracks (b.perform a) (log ++ a.published) reader (l.perform b.ring reader a) := by
  have hcount := readerCount_ne_zero h.place
  cases a with
  | publish m =>
    exact h.append (h.holds.publish hcount m) (position?_publish b m reader) (isOpen_publish b m)
  | publishBatch ms =>
    exact h.append (h.holds.publishBatch hcount ms) (position?_publishBatch b ms reader)
      (isOpen_publishBatch b ms)
  | receive r =>
    rw [Backlog.perform]
    by_cases hr : r = reader
    · rw [if_pos hr, hr]
      change Tracks _ (log ++ []) _ _
      rw [List.append_nil]
      exact h.receive.2
    · rw [if_neg hr]
      have hp := position?_perform h.place hu fun he => hr (Act.receive.inj he)
      obtain ⟨readers, hframe⟩ := receive_frame b r
      rw [Bus.perform, hframe] at hp ⊢
      exact h.of_frame (hp.trans h.place.symm)
  | subscribe =>
    exact h.of_frame ((position?_perform h.place hu (by simp)).trans h.place.symm)
  | unsubscribe r =>
    exact h.of_frame ((position?_perform h.place hu (by simp)).trans h.place.symm)
  | close =>
    change Tracks _ (log ++ []) _ _
    rw [List.append_nil]
    exact ⟨⟨h.holds.sent, h.holds.kept, h.holds.ring⟩, h.unread, h.place, rfl⟩

/-- **A reader meets what the backlog says**, whatever else is done with the bus meanwhile. -/
theorem run (h : Tracks b log reader l) {acts : List Act} (hu : .unsubscribe reader ∉ acts) :
    met reader b acts = l.met b.ring reader acts ∧
      Tracks (b.run acts) (log ++ acts.flatMap Act.published) reader
        (l.run b.ring reader acts) := by
  induction acts generalizing b log l with
  | nil =>
    rw [List.flatMap_nil, List.append_nil]
    exact ⟨rfl, h⟩
  | cons a acts ih =>
    obtain ⟨hua, hu⟩ := not_or.mp (List.mem_cons.not.mp hu)
    obtain ⟨hmet, hrun⟩ := ih (h.perform (Ne.symm hua)) hu
    rw [ring_perform] at hmet hrun
    rw [List.flatMap_cons, ← List.append_assoc]
    refine ⟨?_, hrun⟩
    rw [met, Backlog.met, hmet]
    congr 1
    split
    · rw [h.receive.1]
    · rfl

end Tracks

/-! ### Accounts -/

/-- **Items account for messages** up to some that are unread: they are the messages in their order,
except that in the place of some that follow each other there is one error with their number. -/
inductive Accounts : List Message → List (Except FeedError Message) → List Message → Prop where
  /-- Nothing was met yet. -/
  | nil (unread : List Message) : Accounts unread [] unread
  /-- The next message was met. -/
  | message {published : List Message} {answers : List (Except FeedError Message)}
      {unread : List Message} (m : Message) (h : Accounts published answers unread) :
      Accounts (m :: published) (.ok m :: answers) unread
  /-- The next messages were lost. -/
  | lagged {published : List Message} {answers : List (Except FeedError Message)}
      {unread : List Message} (lost : List Message) (hl : lost ≠ [])
      (h : Accounts published answers unread) :
      Accounts (lost ++ published) (.error (.lagged lost.length) :: answers) unread

namespace Backlog

/-- What a reception takes from the backlog is accounted for by its item. -/
theorem accounts_receive (ring : ℕ) (l : Backlog) {further : List Message}
    {answers : List (Except FeedError Message)} {unread : List Message}
    (h : Accounts ((l.receive ring).2.unread ++ further) answers unread) :
    Accounts (l.unread ++ further) ((l.receive ring).1.item?.toList.map Item.answer ++ answers)
      unread := by
  rcases l.receive_cases ring with ⟨lost, rest, hl, hne, hr⟩ | ⟨m, rest, hl, hr⟩ | ⟨hl, hr⟩
  · rw [hr] at h ⊢
    rw [hl, List.append_assoc]
    exact .lagged lost hne h
  · rw [hr] at h ⊢
    rw [hl]
    exact .message m h
  · rw [hr] at h ⊢
    cases l.isOpen <;> exact h

/-- **What a reader met and what is unread** are together what was unread and what was
published. -/
theorem accounts (ring reader : ℕ) (l : Backlog) (acts : List Act) :
    Accounts (l.unread ++ acts.flatMap Act.published)
      (((l.met ring reader acts).filterMap Reception.item?).map Item.answer)
      (l.run ring reader acts).unread := by
  induction acts generalizing l with
  | nil =>
    rw [List.flatMap_nil, List.append_nil]
    exact .nil l.unread
  | cons a acts ih =>
    have hrest := ih (l.perform ring reader a)
    rw [List.flatMap_cons, ← List.append_assoc]
    cases a with
    | publish m => exact hrest
    | publishBatch ms => exact hrest
    | receive r =>
      rw [Act.published, List.append_nil]
      by_cases hr : r = reader
      · subst hr
        have hperform : l.perform ring r (.receive r) = (l.receive ring).2 := if_pos rfl
        have hitems : (met ring r l (.receive r :: acts)).filterMap Reception.item? =
            (l.receive ring).1.item?.toList ++
              (met ring r (l.receive ring).2 acts).filterMap Reception.item? := by
          rw [met, if_pos rfl, hperform, List.singleton_append, List.filterMap_cons]
          cases (l.receive ring).1.item? <;> rfl
        rw [hperform] at hrest
        rw [hitems, List.map_append, run, List.foldl_cons, hperform]
        exact l.accounts_receive ring hrest
      · have hperform : l.perform ring reader (.receive r) = l := if_neg hr
        have hne : Act.receive r ≠ .receive reader := fun he => hr (Act.receive.inj he)
        rw [hperform] at hrest
        rw [met, if_neg hne, run, List.foldl_cons, hperform]
        exact hrest
    | subscribe => rwa [Act.published, List.append_nil]
    | unsubscribe r => rwa [Act.published, List.append_nil]
    | close => rwa [Act.published, List.append_nil]

end Backlog

/-! ### Counting -/

/-- **The error names the number exactly.** -/
theorem lagged_injective {n m : ℕ} (h : FeedError.lagged n = .lagged m) : n = m := by
  have htext := congrArg String.toList (FeedError.eventBus.inj h)
  rw [String.toList_append, String.toList_append] at htext
  have hdigits := List.append_cancel_left htext
  rw [natText, natText, String.toList_ofList, String.toList_ofList] at hdigits
  have hvalue := congrArg (Nat.ofDigitChars 10 · 0) hdigits
  simpa only [Text.digits, Nat.ofDigitChars_ten_toDigits] using hvalue

/-- **Nothing is uncounted**: messages that were met, messages that were lost and messages that are
unread are all messages. -/
theorem Accounts.length {published unread : List Message} {items : List Item}
    (h : Accounts published (items.map Item.answer) unread) :
    published.length = (items.map Item.count).sum + unread.length := by
  induction items generalizing published with
  | nil =>
    cases h
    simp
  | cons i items ih =>
    cases i with
    | message m =>
      cases h with
      | message _ h =>
        rw [List.length_cons, ih h, List.map_cons, List.sum_cons, Item.count]
        omega
    | lagged n =>
      rw [List.map_cons, Item.answer] at h
      generalize hn : FeedError.lagged n = e at h
      cases h with
      | lagged lost hne h =>
        rw [List.length_append, ih h, List.map_cons, List.sum_cons, Item.count,
          lagged_injective hn]
        omega

/-! ### Batches -/

theorem run_append (b : Bus) (acts acts' : List Act) :
    b.run (acts ++ acts') = (b.run acts).run acts' :=
  List.foldl_append

theorem met_append (reader : ℕ) (b : Bus) (acts acts' : List Act) :
    met reader b (acts ++ acts') = met reader b acts ++ met reader (b.run acts) acts' := by
  induction acts generalizing b with
  | nil => rfl
  | cons a acts ih =>
    rw [List.cons_append, met, met, ih, List.append_assoc]
    rfl

/-- **A batch is its messages one by one**: the bus comes to the same, and nobody meets anything in
between. -/
theorem oneByOne_eq (reader : ℕ) (b : Bus) (a : Act) :
    b.run a.oneByOne = b.perform a ∧ met reader b a.oneByOne = met reader b [a] := by
  cases a with
  | publishBatch ms =>
    have hmet : ∀ b : Bus, met reader b (ms.map .publish) = [] := by
      induction ms with
      | nil => exact fun _ => rfl
      | cons m ms ih => exact fun b => ih (b.publish m)
    refine ⟨?_, (hmet b).trans rfl⟩
    rw [Act.oneByOne, run, List.foldl_map]
    rfl
  | _ => exact ⟨rfl, rfl⟩

theorem oneByOne_run (reader : ℕ) (b : Bus) (acts : List Act) :
    b.run (acts.flatMap Act.oneByOne) = b.run acts ∧
      met reader b (acts.flatMap Act.oneByOne) = met reader b acts := by
  induction acts generalizing b with
  | nil => exact ⟨rfl, rfl⟩
  | cons a acts ih =>
    obtain ⟨hrun, hmet⟩ := oneByOne_eq reader b a
    obtain ⟨hruns, hmets⟩ := ih (b.perform a)
    rw [List.flatMap_cons, run_append, met_append, hrun, hmet, hruns, hmets]
    exact ⟨rfl, (met_append reader b [a] acts).symm⟩

/-! ### All of it -/

/-- **The bus accounts for every message.** Let anything be done with a bus, let a reader begin to
listen, and let anything be done afterwards, but for that reader going. What the reader meets is
what it would meet with a backlog of its own, which begins empty and takes every message that is
published: the oldest unread message, or, whenever more messages are unread than the ring holds, one
error in the place of the oldest that tells how many they are, after which come those that the ring
still holds. So messages met, messages counted in errors and unread messages are all that was
published since, in its order, and the reader has been taken on by as many messages as it met or was
told of. A batch comes to the same as its messages one by one. -/
theorem reader_accounts (capacity : ℕ) (before after : List Act) :
    let b := (ofCapacity capacity).run before
    let reader := b.subscribe.2
    let start := b.subscribe.1
    .unsubscribe reader ∉ after →
    let items := (met reader start after).filterMap Reception.item?
    let backlog := Backlog.run capacity.nextPowerOfTwo reader ⟨[], b.isOpen⟩ after
    met reader start after = Backlog.met capacity.nextPowerOfTwo reader ⟨[], b.isOpen⟩ after ∧
    Accounts (after.flatMap Act.published) (items.map Item.answer) backlog.unread ∧
    (start.run after).position? reader = some (b.sent + (items.map Item.count).sum) ∧
    (start.run after).sent = b.sent + (after.flatMap Act.published).length ∧
    start.run (after.flatMap Act.oneByOne) = start.run after ∧
    met reader start (after.flatMap Act.oneByOne) = met reader start after := by
  intro b reader start hu items backlog
  obtain ⟨log, hlog⟩ := (holds_ofCapacity capacity).run before
  have hring : start.ring = capacity.nextPowerOfTwo := ring_run (ofCapacity capacity) before
  obtain ⟨hmet, hrun⟩ := (Tracks.subscribe hlog).run hu
  rw [hring] at hmet hrun
  have haccounts : Accounts (after.flatMap Act.published) (items.map Item.answer)
      backlog.unread := by
    have h := Backlog.accounts capacity.nextPowerOfTwo reader ⟨[], b.isOpen⟩ after
    rwa [← hmet, List.nil_append] at h
  have hcount := haccounts.length
  have hplace : (start.run after).position? reader =
      some ((log ++ after.flatMap Act.published).length - backlog.unread.length) := hrun.place
  refine ⟨hmet, haccounts, ?_, ?_, oneByOne_run reader start after⟩
  · rw [hplace, List.length_append, hlog.sent]
    congr 1
    omega
  · rw [hrun.holds.sent, List.length_append, hlog.sent]

/-- What is done with a bus before the second reader comes. -/
def early : List Act := [.subscribe, .publish ⟨"a", .empty⟩]

/-- What is done with it afterwards. The second reader falls behind a ring of four twice, the second
time between the error and the next message. -/
def late : List Act :=
  [.publish ⟨"b", .empty⟩,
    .publishBatch [⟨"c", .empty⟩, ⟨"d", .empty⟩, ⟨"e", .empty⟩, ⟨"f", .empty⟩], .receive 1,
    .receive 0, .subscribe, .publish ⟨"g", .empty⟩, .receive 1, .receive 1, .receive 2]

theorem reader_accounts_fallenBehindTwice :
    let start := ((ofCapacity 3).run early).subscribe.1
    .unsubscribe 1 ∉ late ∧
    Accounts (late.flatMap Act.published)
      [.error (.lagged 1), .error (.lagged 1), .ok ⟨"d", .empty⟩]
      [⟨"e", .empty⟩, ⟨"f", .empty⟩, ⟨"g", .empty⟩] ∧
    (start.run late).position? 1 = some 4 ∧
    met 1 start (late.flatMap Act.oneByOne) =
      [.item (.lagged 1), .item (.lagged 1), .item (.message ⟨"d", .empty⟩)] := by
  intro start
  have hring : Nat.nextPowerOfTwo 3 = 4 := by decide +kernel
  have hstay : Act.unsubscribe 1 ∉ late := by decide
  obtain ⟨hmet, haccounts, hplace, -, -, hone⟩ := reader_accounts 3 early late hstay
  rw [hmet, hring] at haccounts hplace hone
  exact ⟨hstay, haccounts, hplace, hone⟩

end Bus

end ActivityFeed
