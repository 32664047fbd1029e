import ActivityFeed.Consumer
import Mathlib.Data.List.Basic
import Mathlib.Data.List.Infix

/-!
# A consumer and what it listens to

A consumer waits for two things at once, the next item of the bus and a request to stop, and when
both are there it is left to chance which of them it takes. This file puts it among everything that
can happen to it (`ActivityFeed.Listening`): a stream of items, a handler that may do anything with
a message, and a schedule that says what happens next (`ActivityFeed.Turn`). A request to stop may
come at any time, and any number of items may be taken after it.

* `ActivityFeed.Consumer.attempt` – the handling of a message, up to its deadline;
* `ActivityFeed.Listening.Orderly` – the invariant: the messages whose handling has begun are those
  of the items taken so far, all but the last have been handled to their end, and only a request or
  the end of the stream stops the consumer;
* `ActivityFeed.Consumer.handlings`, `ActivityFeed.Consumer.activity` – what becomes of the messages
  of a consumer at work, and what is seen of it;
* `ActivityFeed.Consumer.consumeAll_cases` – how far a consumer at work comes;
* `ActivityFeed.Listening.handled_in_order` – all of it, for every stream, handler and schedule, and
  for `ActivityFeed.Consumer.consumeAll`, which is the schedule in which nobody interferes.

A handler that may do anything ends in some way, however late. One that takes its task along in a
crash ends the consumer with it, and is looked at with the consumer at work only.
-/

namespace ActivityFeed

/-- The message of an item, if it is one. -/
def Bus.Item.message? : Bus.Item → Option Message
  | .message m => some m
  | .lagged _ => none

/-- The messages among some items. -/
def Bus.messages (items : List Bus.Item) : List Message := items.filterMap Bus.Item.message?

/-- The message that is being handled. -/
def Phase.current : Phase → List Message
  | .handling m => [m]
  | .waiting => []
  | .stopped => []

/-! ### Handling a message -/

namespace Consumer

/-- What becomes of the handling of a message that would come to its own end, in whatever way and
however late. -/
def attempt (c : Consumer) (x : Timed FeedError Unit) : Timed (Option (Failure FeedError)) Unit :=
  c.limited (x.mapError .error)

variable {c : Consumer} {x : Timed FeedError Unit}

/-- Handling that is done by the deadline comes to its own end. -/
theorem attempt_of_le (h : x.finish ≤ c.messageTimeout) :
    c.attempt x = ⟨x.trace, x.finish, x.outcome.mapError fun e => some (.error e)⟩ := by
  have hlimit : ((x.mapError Failure.error).mapError some).finish ≤ c.messageTimeout := h
  rw [attempt, limited, Timed.within, if_pos hlimit, Timed.mapError, Timed.mapError]
  cases x.outcome <;> rfl

/-- Handling that is not done by the deadline ends there, after all that happened before. -/
theorem attempt_of_lt (h : c.messageTimeout < x.finish) :
    c.attempt x = ⟨x.trace.upTo c.messageTimeout, c.messageTimeout, .error none⟩ := by
  have hlimit : ¬((x.mapError Failure.error).mapError some).finish ≤ c.messageTimeout :=
    Nat.not_le.mpr h
  rw [attempt, limited, Timed.within, if_neg hlimit]
  rfl

/-- **Handling ends** with success, with an error or at the deadline. -/
theorem exists_settled (c : Consumer) (x : Timed FeedError Unit) :
    ∃ h, endingOf (c.attempt x).outcome = .settled h := by
  rcases Nat.lt_or_ge c.messageTimeout x.finish with h | h
  · exact ⟨.timedOut, by rw [attempt_of_lt h]; rfl⟩
  · rw [attempt_of_le h]
    cases x.outcome with
    | ok a => exact ⟨.succeeded, rfl⟩
    | error e => exact ⟨.failed e, rfl⟩

end Consumer

/-! ### What can happen -/

/-- What happens next to a consumer. -/
inductive Turn where
  /-- The next item of the bus is there, and the consumer takes it. -/
  | deliver
  /-- The handling that is under way ends. -/
  | settle
  /-- Somebody asks the consumer to stop. -/
  | cancel
  /-- The consumer looks whether it was asked to stop. -/
  | look
  /-- The bus is gone, and everything on it was taken. -/
  | close
  deriving DecidableEq, Repr

/-- A consumer among the things that happen to it. -/
structure Listening where
  /-- The consumer in its course. -/
  loop : Loop
  /-- The items that it has not taken yet. -/
  ahead : List Bus.Item
  /-- The messages that were handled, each with the whole of its handling. -/
  ended : List (Message × Timed (Option (Failure FeedError)) Unit)

namespace Listening

variable (c : Consumer) (handler : ℕ → Message → Timed FeedError Unit)

/-- A consumer that has just begun to listen. -/
def start (items : List Bus.Item) : Listening := ⟨.start, items, []⟩

/-- What a signal makes of it, if the signal can come; `next` tells what else becomes of it with the
consumer's new course. -/
def take (w : Listening) (s : Signal) (next : Loop → Listening) : Listening :=
  ((w.loop.step s).map next).getD w

/-- What happens next. The handler is given the number of the message and the message. Nothing
happens in a turn that cannot come. -/
def step (w : Listening) : Turn → Listening
  | .deliver =>
    match w.ahead with
    | [] => w
    | i :: rest => w.take (.item i) fun l => { w with loop := l, ahead := rest }
  | .settle =>
    match w.loop.phase with
    | .handling m =>
      let x := c.attempt (handler w.ended.length m)
      w.take (Consumer.endingOf x.outcome) fun l =>
        { w with loop := l, ended := w.ended ++ [(m, x)] }
    | _ => w
  | .cancel => w.take .cancel fun l => { w with loop := l }
  | .look => w.take .look fun l => { w with loop := l }
  | .close =>
    match w.ahead with
    | [] => w.take .endOfStream fun l => { w with loop := l }
    | _ :: _ => w

/-- What happens in the order of a schedule. -/
def run (w : Listening) (schedule : List Turn) : Listening :=
  schedule.foldl (step c handler) w

variable {c handler} {w : Listening}

theorem run_append (w : Listening) (first second : List Turn) :
    w.run c handler (first ++ second) = (w.run c handler first).run c handler second :=
  List.foldl_append

/-! ### One turn -/

theorem step_deliver_message {m : Message} {rest : List Bus.Item} (hp : w.loop.phase = .waiting)
    (ha : w.ahead = .message m :: rest) :
    w.step c handler .deliver =
      ⟨{ w.loop with phase := .handling m, begun := w.loop.begun ++ [m] }, rest, w.ended⟩ := by
  simp only [step, ha, take, Loop.step, hp, if_true, Option.map_some, Option.getD_some]

theorem step_deliver_lagged {n : ℕ} {rest : List Bus.Item} (hp : w.loop.phase = .waiting)
    (ha : w.ahead = .lagged n :: rest) :
    w.step c handler .deliver = ⟨w.loop, rest, w.ended⟩ := by
  simp only [step, ha, take, Loop.step, hp, if_true, Option.map_some, Option.getD_some]

theorem step_settle {m : Message} (hp : w.loop.phase = .handling m) :
    w.step c handler .settle = ⟨{ w.loop with phase := .waiting }, w.ahead,
      w.ended ++ [(m, c.attempt (handler w.ended.length m))]⟩ := by
  obtain ⟨h, hsettled⟩ := c.exists_settled (handler w.ended.length m)
  simp only [step, hp, hsettled, take, Loop.step, Option.map_some, Option.getD_some]

/-- **All that a turn can do.** -/
theorem step_cases (c : Consumer) (handler : ℕ → Message → Timed FeedError Unit) (w : Listening)
    (t : Turn) :
    w.step c handler t = w ∨
    (w.loop.phase = .waiting ∧ ∃ n rest, w.ahead = .lagged n :: rest ∧
      w.step c handler t = ⟨w.loop, rest, w.ended⟩) ∨
    (w.loop.phase = .waiting ∧ ∃ m rest, w.ahead = .message m :: rest ∧
      w.step c handler t =
        ⟨{ w.loop with phase := .handling m, begun := w.loop.begun ++ [m] }, rest, w.ended⟩) ∨
    (∃ m, w.loop.phase = .handling m ∧
      w.step c handler t = ⟨{ w.loop with phase := .waiting }, w.ahead,
        w.ended ++ [(m, c.attempt (handler w.ended.length m))]⟩) ∨
    (t = .cancel ∧ w.step c handler t = { w with loop := { w.loop with cancelled := true } }) ∨
    (w.loop.phase = .waiting ∧ (w.loop.cancelled = true ∨ t = .close ∧ w.ahead = []) ∧
      w.step c handler t = { w with loop := { w.loop with phase := .stopped } }) := by
  cases t with
  | deliver =>
    cases ha : w.ahead with
    | nil => exact .inl (by simp only [step, ha])
    | cons i rest =>
      cases hp : w.loop.phase with
      | waiting =>
        cases i with
        | message m =>
          exact .inr (.inr (.inl ⟨rfl, m, rest, rfl, step_deliver_message hp ha⟩))
        | lagged n => exact .inr (.inl ⟨rfl, n, rest, rfl, step_deliver_lagged hp ha⟩)
      | handling m => exact .inl (by cases i <;> simp [step, ha, take, Loop.step, hp])
      | stopped => exact .inl (by cases i <;> simp [step, ha, take, Loop.step, hp])
  | settle =>
    cases hp : w.loop.phase with
    | waiting => exact .inl (by simp only [step, hp])
    | handling m => exact .inr (.inr (.inr (.inl ⟨m, rfl, step_settle hp⟩)))
    | stopped => exact .inl (by simp only [step, hp])
  | cancel => exact .inr (.inr (.inr (.inr (.inl ⟨rfl, rfl⟩))))
  | look =>
    by_cases hlook : w.loop.phase = .waiting ∧ w.loop.cancelled = true
    · refine .inr (.inr (.inr (.inr (.inr ⟨hlook.1, .inl hlook.2, ?_⟩))))
      simp only [step, take, Loop.step, if_pos hlook, Option.map_some, Option.getD_some]
    · exact .inl (by simp only [step, take, Loop.step, if_neg hlook, Option.map_none,
        Option.getD_none])
  | close =>
    cases ha : w.ahead with
    | cons i rest => exact .inl (by simp only [step, ha])
    | nil =>
      by_cases hp : w.loop.phase = .waiting
      · refine .inr (.inr (.inr (.inr (.inr ⟨hp, .inr ⟨rfl, rfl⟩, ?_⟩))))
        simp only [step, ha, take, Loop.step, if_pos hp, Option.map_some, Option.getD_some]
      · exact .inl (by simp only [step, ha, take, Loop.step, if_neg hp, Option.map_none,
          Option.getD_none])

/-! ### The order of things -/

/-- The messages as they are handled, the first with the number zero. -/
def handled (c : Consumer) (handler : ℕ → Message → Timed FeedError Unit) (ms : List Message) :
    List (Message × Timed (Option (Failure FeedError)) Unit) :=
  ms.mapIdx fun n m => (m, c.attempt (handler n m))

theorem handled_cons (c : Consumer) (handler : ℕ → Message → Timed FeedError Unit) (m : Message)
    (ms : List Message) :
    handled c handler (m :: ms) =
      (m, c.attempt (handler 0 m)) :: handled c (fun n => handler (n + 1)) ms :=
  List.mapIdx_cons

theorem handled_append_singleton (c : Consumer) (handler : ℕ → Message → Timed FeedError Unit)
    (ms : List Message) (m : Message) :
    handled c handler (ms ++ [m]) =
      handled c handler ms ++ [(m, c.attempt (handler (handled c handler ms).length m))] := by
  rw [handled, handled, List.mapIdx_append, List.length_mapIdx]
  simp

/-- **Everything is in order** with a consumer to which `past` happened while it listened to
`items`. -/
structure Orderly (c : Consumer) (handler : ℕ → Message → Timed FeedError Unit)
    (items : List Bus.Item) (past : List Turn) (w : Listening) : Prop where
  /-- What is ahead is the rest of the items. -/
  ahead : w.ahead <:+ items
  /-- The handling of every message that was taken has begun, and of no other. -/
  begun : w.loop.begun ++ Bus.messages w.ahead = Bus.messages items
  /-- All messages but the current one were handled to the end. -/
  ended : ∃ done, w.loop.begun = done ++ w.loop.phase.current ∧ w.ended = handled c handler done
  /-- The consumer knows of a request to stop only if there was one. -/
  cancelled : w.loop.cancelled = true → .cancel ∈ past
  /-- Only such a request or the end of the stream stops it. -/
  stopped : w.loop.phase = .stopped → .cancel ∈ past ∨ .close ∈ past ∧ w.ahead = []

theorem orderly_start (items : List Bus.Item) : Orderly c handler items [] (start items) where
  ahead := List.suffix_rfl
  begun := rfl
  ended := ⟨[], rfl, rfl⟩
  cancelled h := by cases h
  stopped h := by cases h

/-- **A turn keeps the order.** -/
theorem Orderly.step {items : List Bus.Item} {past : List Turn}
    (h : Orderly c handler items past w) (t : Turn) :
    Orderly c handler items (past ++ [t]) (w.step c handler t) := by
  have hcancelled : w.loop.cancelled = true → .cancel ∈ past ++ [t] := fun hc =>
    List.mem_append_left _ (h.cancelled hc)
  have hstopped : w.loop.phase = .stopped →
      .cancel ∈ past ++ [t] ∨ .close ∈ past ++ [t] ∧ w.ahead = [] := fun hs =>
    (h.stopped hs).imp (List.mem_append_left _) fun hs => ⟨List.mem_append_left _ hs.1, hs.2⟩
  obtain ⟨done, hbegun, hended⟩ := h.ended
  rcases step_cases c handler w t with hsame | ⟨hp, n, rest, ha, hstep⟩ |
    ⟨hp, m, rest, ha, hstep⟩ | ⟨m, hp, hstep⟩ | ⟨rfl, hstep⟩ | ⟨hp, hwhy, hstep⟩
  · rw [hsame]
    exact ⟨h.ahead, h.begun, h.ended, hcancelled, hstopped⟩
  · -- an error of the bus is passed over
    rw [hstep]
    refine ⟨(List.suffix_cons _ _).trans (ha ▸ h.ahead), ?_, h.ended, hcancelled, fun hs => ?_⟩
    · rw [← h.begun, ha]
      rfl
    · rw [hp] at hs
      cases hs
  · -- a message is taken, and those before it are done
    rw [hstep]
    refine ⟨(List.suffix_cons _ _).trans (ha ▸ h.ahead), ?_, ⟨done, ?_, hended⟩, hcancelled,
      fun hs => by cases hs⟩
    · rw [← h.begun, ha, List.append_assoc]
      rfl
    · rw [hbegun, hp]
      simp only [Phase.current, List.append_nil]
  · -- the handling of the current message ends
    rw [hstep]
    refine ⟨h.ahead, h.begun, ⟨done ++ [m], ?_, ?_⟩, hcancelled, fun hs => by cases hs⟩
    · simp only [hbegun, hp, Phase.current, List.append_nil]
    · rw [handled_append_singleton, hended]
  · rw [hstep]
    exact ⟨h.ahead, h.begun, h.ended, fun _ => by simp, hstopped⟩
  · rw [hstep]
    have hdone : w.loop.begun = done ++ Phase.stopped.current := by
      rw [hbegun, hp]
      rfl
    refine ⟨h.ahead, h.begun, ⟨done, hdone, hended⟩, hcancelled, fun _ => ?_⟩
    rcases hwhy with hc | ⟨rfl, ha⟩
    · exact .inl (hcancelled hc)
    · exact .inr ⟨by simp, ha⟩

/-- **A run keeps the order.** -/
theorem Orderly.run {items : List Bus.Item} {past : List Turn}
    (h : Orderly c handler items past w) (schedule : List Turn) :
    Orderly c handler items (past ++ schedule) (w.run c handler schedule) := by
  induction schedule generalizing past w with
  | nil =>
    rw [List.append_nil]
    exact h
  | cons t schedule ih =>
    have hnext := ih (h.step t)
    rwa [List.append_assoc] at hnext

/-! ### Going on -/

/-- Turns in which the consumer finishes what it is at, and takes and handles all that is ahead. -/
def catchUp (items : List Bus.Item) : List Turn :=
  .settle :: items.flatMap fun _ => [.deliver, .settle]

/-- **A consumer that waits takes one item after the other**, whatever becomes of the messages. -/
theorem run_rounds (c : Consumer) (handler : ℕ → Message → Timed FeedError Unit) {w : Listening}
    (hp : w.loop.phase = .waiting) :
    let w' := w.run c handler (w.ahead.flatMap fun _ => [.deliver, .settle])
    w'.ahead = [] ∧ w'.loop = { w.loop with begun := w.loop.begun ++ Bus.messages w.ahead } ∧
      w'.ended = w.ended ++ handled c (fun n => handler (w.ended.length + n))
        (Bus.messages w.ahead) := by
  obtain ⟨l, items, ended⟩ := w
  induction items generalizing l ended with
  | nil =>
    refine ⟨rfl, ?_⟩
    rw [Bus.messages, List.filterMap_nil, List.append_nil]
    exact ⟨rfl, (List.append_nil _).symm⟩
  | cons i items ih =>
    have hphase : l.phase = .waiting := hp
    intro w'
    have hrun : w' = run c handler (run c handler ⟨l, i :: items, ended⟩ [.deliver, .settle])
        (items.flatMap fun _ => [.deliver, .settle]) := run_append _ [.deliver, .settle] _
    cases i with
    | message m =>
      have hround : run c handler ⟨l, .message m :: items, ended⟩ [.deliver, .settle] =
          ⟨{ l with begun := l.begun ++ [m] }, items,
            ended ++ [(m, c.attempt (handler ended.length m))]⟩ := by
        rw [run, List.foldl_cons, step_deliver_message hp rfl, List.foldl_cons, step_settle rfl,
          List.foldl_nil, ← hp]
      have hmessages : Bus.messages (.message m :: items) = m :: Bus.messages items := rfl
      obtain ⟨hahead, hloop, hended⟩ := ih { l with begun := l.begun ++ [m] }
        (ended ++ [(m, c.attempt (handler ended.length m))]) hp
      rw [hrun, hround, hmessages]
      refine ⟨hahead, hloop.trans ?_, hended.trans ?_⟩
      · rw [List.append_assoc]
        rfl
      · -- the numbers go on behind the new handling
        have hnumber : ∀ n, ended.length + 1 + n = ended.length + (n + 1) := fun n => by omega
        simp only [handled_cons, List.length_append, List.length_singleton, List.append_assoc,
          List.singleton_append, Nat.add_zero, hnumber]
    | lagged n =>
      have hround : run c handler ⟨l, .lagged n :: items, ended⟩ [.deliver, .settle] =
          ⟨l, items, ended⟩ := by
        rw [run, List.foldl_cons, step_deliver_lagged hp rfl, List.foldl_cons, List.foldl_nil]
        simp only [step, hphase]
      rw [hrun, hround]
      exact ih l ended hp

/-- **A consumer that has not stopped can go on**: it finishes what it is at, and takes and handles
all that is ahead. -/
theorem run_catchUp (c : Consumer) (handler : ℕ → Message → Timed FeedError Unit) {w : Listening}
    (hp : w.loop.phase ≠ .stopped) :
    let w' := w.run c handler (catchUp w.ahead)
    w'.ahead = [] ∧ w'.loop.phase = .waiting := by
  have hsettled : (w.step c handler .settle).loop.phase = .waiting ∧
      (w.step c handler .settle).ahead = w.ahead := by
    cases hphase : w.loop.phase with
    | waiting => simp only [step, hphase, and_self]
    | handling m => simp only [step_settle hphase, and_self]
    | stopped => exact absurd hphase hp
  obtain ⟨hahead, hloop, -⟩ := run_rounds c handler hsettled.1
  rw [hsettled.2] at hahead hloop
  exact ⟨hahead, (congrArg Loop.phase hloop).trans hsettled.1⟩

/-- **A consumer in order that goes on handles all messages** of the stream. -/
theorem Orderly.run_catchUp {items : List Bus.Item} {past : List Turn}
    (h : Orderly c handler items past w) (hp : w.loop.phase ≠ .stopped) :
    let w' := w.run c handler (catchUp w.ahead)
    w'.loop.phase = .waiting ∧ w'.loop.begun = Bus.messages items ∧
      w'.ended = handled c handler (Bus.messages items) := by
  intro w'
  have horder := h.run (catchUp w.ahead)
  obtain ⟨hahead, hphase⟩ := Listening.run_catchUp c handler hp
  have hbegun : w'.loop.begun = Bus.messages items := by
    have hall := horder.begun
    rwa [hahead, Bus.messages, List.filterMap_nil, List.append_nil] at hall
  obtain ⟨done, hdone, hended⟩ := horder.ended
  rw [hphase, Phase.current, List.append_nil] at hdone
  exact ⟨hphase, hbegun, hended.trans (congrArg _ (hdone.symm.trans hbegun))⟩

end Listening

/-! ### The consumer at work -/

/-- Work of which the result is dropped. -/
def Timed.dropResult {ε α : Type} (x : Timed ε α) : Timed ε Unit :=
  ⟨x.trace, x.finish, x.outcome.map fun _ => ()⟩

namespace Consumer

variable {c : Consumer}

/-- **The handling of a message** by what the consumer works for, up to its deadline. -/
def handling (c : Consumer) (m : Message) : Timed (Option (Failure FeedError)) Unit :=
  match c.handler with
  | .service => (c.limited (c.feed.service.handle c.feed.collaborators m)).dropResult
  | .spy => (c.limited (Spy.handle m)).dropResult

/-- **The handlings of several messages** in turn, each of which finds the feed as those before it
left it. -/
def handlings (c : Consumer) :
    List Message → List (Message × Timed (Option (Failure FeedError)) Unit)
  | [] => []
  | m :: ms => (m, c.handling m) :: { c with feed := (c.handleMessage m).1 }.handlings ms

/-- **What is reported** on the way through some items, if their messages are handled in the given
way: every loss of the bus, what is reported while a message is handled, and the error with which
that ends, or that it came to its deadline. -/
def reports (h : MessageHandler) (timeout : ℕ) : List Bus.Item →
    List (Message × Timed (Option (Failure FeedError)) Unit) → List Notice
  | .lagged n :: items, handled => .busFailed (.lagged n) :: reports h timeout items handled
  | .message _ :: items, (m, x) :: handled =>
    x.trace.notices ++
      (match x.outcome with
        | .error (some (.error e)) => [.handlingFailed h.name m.tag e]
        | .error none => [.handlingTimedOut h.name m.tag timeout]
        | _ => []) ++
      reports h timeout items handled
  | _, _ => []

/-- **What is seen of a consumer that deals with some items**: it begins with their messages in
turn, and those are handled as they should whose handling ends well. -/
def activity (c : Consumer) (items : List Bus.Item) : Activity where
  started := Bus.messages items
  handled := ((c.handlings (Bus.messages items)).filter fun p => p.2.outcome.isOk).map Prod.fst
  notices := reports c.handler c.messageTimeout items (c.handlings (Bus.messages items))

/-- The course of a consumer has nothing to do with how it handles messages. -/
theorem handlings_inCourse (loop : Option (ℕ × Loop)) (ms : List Message) :
    { c with loop := loop }.handlings ms = c.handlings ms := by
  induction ms generalizing c with
  | nil => rfl
  | cons m ms ih =>
    exact congrArg ((m, c.handling m) :: ·) (ih (c := { c with feed := (c.handleMessage m).1 }))

theorem activity_inCourse (loop : Option (ℕ × Loop)) (items : List Bus.Item) :
    { c with loop := loop }.activity items = c.activity items := by
  rw [activity, handlings_inCourse]
  rfl

/-- Handling a message reports what its trace says, and ends as it does. -/
theorem handleMessage_snd (c : Consumer) (m : Message) :
    (c.handleMessage m).2 = ((c.handling m).trace.notices, endingOf (c.handling m).outcome) := by
  unfold handleMessage handling
  cases c.handler with
  | service =>
    dsimp only [Feed.concludeDelivery, Feed.conclude, Timed.dropResult]
    cases (c.limited (c.feed.service.handle c.feed.collaborators m)).outcome with
    | ok d => rfl
    | error e => rcases e with _ | (e | _) <;> rfl
  | spy =>
    dsimp only [Feed.conclude, Timed.dropResult]
    cases (c.limited (Spy.handle m)).outcome with
    | ok a => rfl
    | error e => rfl

/-- **Handling that does not crash is an attempt**: it comes to its own end or to its deadline. -/
theorem exists_attempt_eq {α : Type} (x : Work α)
    (hcrash : (c.limited x).dropResult.outcome ≠ .error (some .crash)) :
    ∃ y, c.attempt y = (c.limited x).dropResult := by
  by_cases hle : x.finish ≤ c.messageTimeout
  · have hlimited : (c.limited x).dropResult = (x.mapError some).dropResult :=
      congrArg Timed.dropResult (if_pos hle)
    rw [hlimited] at hcrash ⊢
    unfold Timed.dropResult Timed.mapError at hcrash ⊢
    cases houtcome : x.outcome with
    | ok a => exact ⟨⟨x.trace, x.finish, .ok ()⟩, attempt_of_le hle⟩
    | error failure =>
      cases failure with
      | error e => exact ⟨⟨x.trace, x.finish, .error e⟩, attempt_of_le hle⟩
      | crash =>
        rw [houtcome] at hcrash
        exact absurd rfl hcrash
  · have hlimited : c.limited x = ⟨x.trace.upTo c.messageTimeout, c.messageTimeout, .error none⟩ :=
      if_neg hle
    rw [hlimited]
    exact ⟨⟨x.trace, x.finish, .ok ()⟩, attempt_of_lt (Nat.lt_of_not_le hle)⟩

theorem exists_attempt_eq_handling {m : Message}
    (hcrash : (c.handling m).outcome ≠ .error (some .crash)) : ∃ y, c.attempt y = c.handling m := by
  unfold handling at hcrash ⊢
  cases hhandler : c.handler with
  | service =>
    rw [hhandler] at hcrash
    exact exists_attempt_eq _ hcrash
  | spy =>
    rw [hhandler] at hcrash
    exact exists_attempt_eq _ hcrash

/-! #### Item by item -/

variable {reader : ℕ} {l : Loop}

/-- An error of the bus begins nothing, and the consumer goes on waiting. -/
theorem consume_lagged (hl : c.loop = some (reader, l)) (hp : l.phase = .waiting) (n : ℕ) :
    c.consume (.lagged n) = (c, c.activity [.lagged n]) := by
  obtain ⟨bus, feed, handler, timeout, loop⟩ := c
  obtain rfl : loop = some (reader, l) := hl
  simp only [consume, signal, Option.map_some, Loop.step, hp, if_true, Option.getD_some]
  rfl

/-- A message is handled, and the consumer leaves if that crashes. -/
theorem consume_message (c : Consumer) (m : Message) :
    let ending := endingOf (c.handling m).outcome
    let after : Consumer :=
      { (c.signal (.item (.message m))).signal ending with feed := (c.handleMessage m).1 }
    c.consume (.message m) =
      (if ending = .crash then after.leave else after,
        { started := [m]
          handled := if ending = .settled .succeeded then [m] else []
          notices := (c.handling m).trace.notices ++ c.endingNotices m ending }) := by
  intro ending after
  have hsnd := handleMessage_snd c m
  rcases hall : c.handleMessage m with ⟨feed, notices, ending'⟩
  rw [hall] at hsnd
  obtain ⟨rfl, rfl⟩ := Prod.mk.inj hsnd
  simp only [consume, hall, after, ending]
  rfl

/-- What is seen of a message. -/
theorem activity_singleton (c : Consumer) (m : Message) :
    (c.consume (.message m)).2 = c.activity [.message m] := by
  have hactivity : c.activity [.message m] = ⟨[m],
      ([(m, c.handling m)].filter fun p => p.2.outcome.isOk).map Prod.fst,
      reports c.handler c.messageTimeout [.message m] [(m, c.handling m)]⟩ := rfl
  rw [hactivity, consume_message]
  simp only [reports, List.append_nil]
  cases houtcome : (c.handling m).outcome with
  | ok a => simp [endingOf, endingNotices, houtcome, Except.isOk, Except.toBool]
  | error e =>
    rcases e with _ | (e | _) <;>
    simp [endingOf, endingNotices, houtcome, Except.isOk, Except.toBool]

/-- The consumer is gone if the handling crashes. -/
theorem loop_consume_of_crash {m : Message}
    (hcrash : (c.handling m).outcome = .error (some .crash)) :
    (c.consume (.message m)).1.loop = none := by
  have hending : endingOf (c.handling m).outcome = .crash := by rw [hcrash]; rfl
  rw [consume_message]
  simp only [hending, if_true, leave]
  split
  · assumption
  · rfl

/-- Otherwise it waits again. -/
theorem consume_of_not_crash {m : Message} (hl : c.loop = some (reader, l))
    (hp : l.phase = .waiting) (hcrash : (c.handling m).outcome ≠ .error (some .crash)) :
    (c.consume (.message m)).1 = { c with
      feed := (c.handleMessage m).1
      loop := some (reader, { l with begun := l.begun ++ [m] }) } := by
  obtain ⟨h, hsettled⟩ : ∃ h, endingOf (c.handling m).outcome = .settled h := by
    cases houtcome : (c.handling m).outcome with
    | ok a => exact ⟨.succeeded, rfl⟩
    | error e =>
      rcases e with _ | (e | _)
      · exact ⟨.timedOut, rfl⟩
      · exact ⟨.failed e, rfl⟩
      · exact absurd houtcome hcrash
  rw [consume_message]
  simp only [hsettled, reduceCtorEq, if_false, signal, hl, Option.map_some, Loop.step, hp, if_true,
    Option.getD_some]

theorem activity_cons_lagged (n : ℕ) (items : List Bus.Item) :
    c.activity (.lagged n :: items) = (c.activity [.lagged n]).append (c.activity items) := rfl

theorem activity_cons_message (m : Message) (items : List Bus.Item) :
    c.activity (.message m :: items) = (c.activity [.message m]).append
      ({ c with feed := (c.handleMessage m).1 }.activity items) := by
  have hmessages : Bus.messages (.message m :: items) = m :: Bus.messages items := rfl
  have hsingle : Bus.messages [.message m] = [m] := rfl
  simp only [activity, Activity.append, hmessages, hsingle, handlings, reports, List.append_nil,
    List.filter_cons, List.filter_nil]
  split <;> rfl

/-- A consumer that does not listen deals with nothing. -/
theorem consumeAll_of_none (hl : c.loop = none) (items : List Bus.Item) :
    c.consumeAll items = (c, {}) := by
  cases items with
  | nil => rfl
  | cons i items => rw [consumeAll, if_pos (by rw [hl]; rfl)]

/-- A consumer that listens deals with an item, and then with the rest. -/
theorem consumeAll_cons {listens : ℕ × Loop} (hl : c.loop = some listens) (i : Bus.Item)
    (items : List Bus.Item) :
    c.consumeAll (i :: items) = (((c.consume i).1.consumeAll items).1,
      (c.consume i).2.append ((c.consume i).1.consumeAll items).2) := by
  rw [consumeAll, if_neg (by simp [hl])]

/-- **A consumer at work** takes one item after the other, up to a message whose handling takes it
along in a crash, or up to the end of the items, and then it waits again. -/
theorem consumeAll_cases (hl : c.loop = some (reader, l)) (hp : l.phase = .waiting)
    (items : List Bus.Item) :
    ∃ taken, taken <+: items ∧ (c.consumeAll items).2 = c.activity taken ∧
      ((c.consumeAll items).1.loop = none ∧
          (∃ before p, c.handlings (Bus.messages taken) = before ++ [p] ∧
            p.2.outcome = .error (some .crash)) ∨
        taken = items ∧
          (∀ p ∈ c.handlings (Bus.messages items), p.2.outcome ≠ .error (some .crash)) ∧
          (c.consumeAll items).1.loop =
            some (reader, { l with begun := l.begun ++ Bus.messages items })) := by
  induction items generalizing c l with
  | nil =>
    refine ⟨[], List.prefix_rfl, rfl, .inr ⟨rfl, List.forall_mem_nil _, ?_⟩⟩
    rw [Bus.messages, List.filterMap_nil, List.append_nil]
    exact hl
  | cons i items ih =>
    rw [consumeAll_cons hl]
    cases i with
    | lagged n =>
      rw [consume_lagged hl hp]
      obtain ⟨taken, htaken, hactivity, hcourse⟩ := ih hl hp
      refine ⟨.lagged n :: taken, List.cons_prefix_cons.mpr ⟨rfl, htaken⟩, ?_, ?_⟩
      · rw [hactivity, ← activity_cons_lagged]
      · exact hcourse.imp_right fun ⟨hall, hrest⟩ => ⟨congrArg _ hall, hrest⟩
    | message m =>
      rw [activity_singleton]
      by_cases hcrash : (c.handling m).outcome = .error (some .crash)
      · rw [consumeAll_of_none (loop_consume_of_crash hcrash)]
        refine ⟨[.message m], ⟨items, rfl⟩, ?_,
          .inl ⟨loop_consume_of_crash hcrash, [], _, rfl, hcrash⟩⟩
        simp only [Activity.append, List.append_nil]
      · rw [consume_of_not_crash hl hp hcrash]
        -- the handler leaves the consumer with another feed, and its course is the next one
        obtain ⟨taken, htaken, hactivity, hcourse⟩ := ih (c := { c with
          feed := (c.handleMessage m).1
          loop := some (reader, { l with begun := l.begun ++ [m] }) }) rfl hp
        have hhandlings := handlings_inCourse (c := { c with feed := (c.handleMessage m).1 })
          (some (reader, { l with begun := l.begun ++ [m] }))
        rw [hhandlings, hhandlings] at hcourse
        refine ⟨.message m :: taken, List.cons_prefix_cons.mpr ⟨rfl, htaken⟩, ?_, ?_⟩
        · rw [activity_cons_message m taken, hactivity]
          exact congrArg (c.activity [.message m]).append
            (activity_inCourse (c := { c with feed := (c.handleMessage m).1 }) _ _)
        · rcases hcourse with ⟨hnone, before, p, hlast, hp'⟩ | ⟨hall, hrest, hloop⟩
          · refine .inl ⟨hnone, (m, c.handling m) :: before, p, ?_, hp'⟩
            exact congrArg ((m, c.handling m) :: ·) hlast
          · refine .inr ⟨congrArg _ hall, List.forall_mem_cons.mpr ⟨hcrash, hrest⟩, ?_⟩
            rw [hloop, List.append_assoc]
            rfl

end Consumer

namespace Listening

/-- **What a consumer does with messages is what some handler does with them**, as long as nothing
crashes. -/
theorem exists_handled_eq {c : Consumer} {ms : List Message}
    (hcrash : ∀ p ∈ c.handlings ms, p.2.outcome ≠ .error (some .crash)) :
    ∃ handler, handled c handler ms = c.handlings ms := by
  induction ms generalizing c with
  | nil => exact ⟨fun _ _ => ⟨[], 0, .ok ()⟩, rfl⟩
  | cons m ms ih =>
    obtain ⟨hfirst, hrest⟩ := List.forall_mem_cons.mp hcrash
    obtain ⟨x, hx⟩ := Consumer.exists_attempt_eq_handling hfirst
    obtain ⟨handler, hhandler⟩ := ih hrest
    refine ⟨fun n m => n.casesOn x fun n => handler n m, ?_⟩
    rw [handled_cons, Consumer.handlings]
    exact congrArg₂ (fun x xs => (m, x) :: xs) hx hhandler

/-- **A consumer at work is one with whom nobody interferes**: what is seen of it is what comes of
handling the messages of the items that it takes, and unless a handler takes it along, it takes all
of them and comes to where it comes by taking and handling one after the other. -/
theorem consumeAll_listening {c : Consumer} {reader : ℕ} {l : Loop}
    (hl : c.loop = some (reader, l)) (hp : l.phase = .waiting) (items : List Bus.Item) :
    ∃ taken, taken <+: items ∧ (c.consumeAll items).2 = c.activity taken ∧
      ((c.consumeAll items).1.loop = none ∧
          (∃ before p, c.handlings (Bus.messages taken) = before ++ [p] ∧
            p.2.outcome = .error (some .crash)) ∨
        taken = items ∧ ∃ own,
          let w := run c own ⟨l, items, []⟩ (items.flatMap fun _ => [.deliver, .settle])
          w.ended = c.handlings (Bus.messages items) ∧
            (c.consumeAll items).1.loop = some (reader, w.loop)) := by
  obtain ⟨taken, htaken, hactivity, hcourse⟩ := Consumer.consumeAll_cases hl hp items
  refine ⟨taken, htaken, hactivity, hcourse.imp_right ?_⟩
  rintro ⟨hall, hcrash, hloop⟩
  obtain ⟨own, hown⟩ := exists_handled_eq hcrash
  obtain ⟨-, hrounds, hended⟩ := run_rounds c own (w := ⟨l, items, []⟩) hp
  refine ⟨hall, own, ?_, hloop.trans (congrArg (fun l => some (reader, l)) hrounds.symm)⟩
  simpa [hown] using hended

/-! ### All of it -/

/-- **Every message is handled once, in order, and to its end.** Let a consumer listen to any stream
of messages and errors of the bus, with a handler that does anything with a message, and let
requests to stop come at any time. The messages whose handling has begun, and those that are still
ahead, are the messages of the stream; all but the current one have been handled to their own end,
or to their deadline if they were not done by then. What stops the consumer is a request or the end
of the stream, and otherwise it can go on until all messages of the stream are handled.

A consumer at work takes items in their order, and what is seen of it, which messages it begins
with, which are handled as they should, and what is reported, is what comes of handling the messages
of the items that it took. It takes all items, in the way of a consumer with whom nobody interferes,
unless its handler crashes with the last message. -/
theorem handled_in_order (c : Consumer) (handler : ℕ → Message → Timed FeedError Unit)
    (items : List Bus.Item) (schedule : List Turn) :
    let w := (start items).run c handler schedule
    w.ahead <:+ items ∧
    w.loop.begun ++ Bus.messages w.ahead = Bus.messages items ∧
    (∃ done, w.loop.begun = done ++ w.loop.phase.current ∧ w.ended = handled c handler done) ∧
    (w.loop.phase = .stopped → .cancel ∈ schedule ∨ .close ∈ schedule ∧ w.ahead = []) ∧
    (w.loop.phase ≠ .stopped →
      let w' := w.run c handler (catchUp w.ahead)
      w'.loop.phase = .waiting ∧ w'.loop.begun = Bus.messages items ∧
        w'.ended = handled c handler (Bus.messages items)) ∧
    (∀ x : Timed FeedError Unit,
      (x.finish ≤ c.messageTimeout →
        c.attempt x = ⟨x.trace, x.finish, x.outcome.mapError fun e => some (.error e)⟩) ∧
      (c.messageTimeout < x.finish →
        c.attempt x = ⟨x.trace.upTo c.messageTimeout, c.messageTimeout, .error none⟩)) ∧
    ∀ reader l, c.loop = some (reader, l) → l.phase = .waiting → ∃ taken, taken <+: items ∧
      (c.consumeAll items).2 = c.activity taken ∧
      ((c.consumeAll items).1.loop = none ∧
          (∃ before p, c.handlings (Bus.messages taken) = before ++ [p] ∧
            p.2.outcome = .error (some .crash)) ∨
        taken = items ∧ ∃ own,
          let w := run c own ⟨l, items, []⟩ (items.flatMap fun _ => [.deliver, .settle])
          w.ended = c.handlings (Bus.messages items) ∧
            (c.consumeAll items).1.loop = some (reader, w.loop)) := by
  intro w
  have horder : Orderly c handler items schedule w := (orderly_start items).run schedule
  exact ⟨horder.ahead, horder.begun, horder.ended, horder.stopped, horder.run_catchUp,
    fun x => ⟨Consumer.attempt_of_le, Consumer.attempt_of_lt⟩,
    fun _ _ hl hp => consumeAll_listening hl hp items⟩

/-- A consumer that listens with a spy. -/
def spyAtWork : Consumer :=
  (Consumer.create 4 (Feed.start ⟨.standard {}, {}⟩ .epoch) .spy 1000).start.1

/-- A message that goes well, a loss, one that fails, one that takes too long, and one that ends at
its deadline. -/
def mixedItems : List Bus.Item :=
  [.message ⟨"a", .empty⟩, .lagged 2, .message ⟨"b", .ofList [("fail", "down")]⟩,
    .message ⟨"c", .ofList [("delay_ms", "1001")]⟩, .message ⟨"d", .ofList [("delay_ms", "1000")]⟩]

theorem handled_in_order_mixedItems :
    (spyAtWork.consumeAll mixedItems).2.started.map Message.tag = ["a", "b", "c", "d"] ∧
      (spyAtWork.consumeAll mixedItems).2.handled.map Message.tag = ["a", "d"] ∧
      (spyAtWork.consumeAll mixedItems).2.notices = [.busFailed (.lagged 2),
        .handlingFailed "spy" "b" (.unavailable .store "down"),
        .handlingTimedOut "spy" "c" 1000] := by
  obtain ⟨-, -, -, -, -, -, hwork⟩ :=
    handled_in_order spyAtWork (fun _ _ => ⟨[], 0, .ok ()⟩) mixedItems []
  obtain ⟨taken, htaken, hactivity, hcourse⟩ := hwork 0 .start rfl rfl
  have hcrash : ∀ first ∈ mixedItems.inits, ∀ p ∈ spyAtWork.handlings (Bus.messages first),
      p.2.outcome ≠ .error (some .crash) := by decide +kernel
  obtain rfl : taken = mixedItems := by
    rcases hcourse with ⟨-, before, p, hlast, hp⟩ | ⟨hall, -⟩
    · refine absurd hp (hcrash taken ((List.mem_inits _ _).mpr htaken) p ?_)
      rw [hlast]
      exact List.mem_append_right _ List.mem_cons_self
    · exact hall
  rw [hactivity]
  decide +kernel

end Listening

end ActivityFeed
