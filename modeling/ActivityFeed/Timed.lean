import ActivityFeed.Notice
import ActivityFeed.Query

/-!
# Work in time

Work takes time, and what happens first may decide. Time is counted in milliseconds from the
beginning of a piece of work, and only waiting takes time. A piece of work is described by what
happened in it and when, by the time at which it ends, and by how it ends.

* `ActivityFeed.Timed` – a piece of work;
* `ActivityFeed.Failure` – why work comes to nothing where its task may crash;
* `ActivityFeed.Timed.bind` – one piece after the other;
* `ActivityFeed.Timed.within` – a piece that must not take longer than a given time;
* `ActivityFeed.Timed.both` – two pieces side by side;
* `ActivityFeed.Timed.gather` – any number of pieces, each a task of its own.

Pieces that go on side by side are abandoned together when the first of them fails, and what would
have happened in them afterwards does not happen. Two pieces side by side take turns in coming
first, which decides what still happens at the very instant of a failure. A deadline abandons work
in the same way. Work that is done in place is finished when it ends at the very instant of its
deadline, while tasks have to be waited for, so they must end before it.
-/

namespace ActivityFeed

/-- What can happen in a piece of work, as far as others can see it. -/
inductive Happening where
  /-- A call to a collaborator. -/
  | call (c : Call)
  /-- A report. -/
  | note (n : Notice)
  deriving DecidableEq, Repr

/-- A list of happenings with their times. -/
abbrev Trace := List (Nat × Happening)

namespace Trace

/-- The trace of work that begins later. -/
def delayed (delay : Nat) (t : Trace) : Trace := t.map fun p => (delay + p.1, p.2)

/-- What happened up to a time, inclusively. -/
def upTo (time : Nat) (t : Trace) : Trace := t.filter fun p => decide (p.1 ≤ time)

/-- What happened before a time. -/
def before (time : Nat) (t : Trace) : Trace := t.filter fun p => decide (p.1 < time)

/-- The calls of a trace. -/
def calls (t : Trace) : List Call :=
  t.filterMap fun p => match p.2 with | .call c => some c | .note _ => none

/-- The reports of a trace. -/
def notices (t : Trace) : List Notice :=
  t.filterMap fun p => match p.2 with | .note n => some n | .call _ => none

end Trace

/-- Why work comes to nothing where its task may crash. -/
inductive Failure (ε : Type) where
  /-- An error. -/
  | error (e : ε)
  /-- The task that does the work crashed. -/
  | crash
  deriving DecidableEq, Repr

/-- The failure with its error seen in another light. -/
def Failure.map {ε ε' : Type} (f : ε → ε') : Failure ε → Failure ε'
  | .error e => .error (f e)
  | .crash => .crash

/-- A piece of work that ends with an `α` or fails with an `ε`. -/
structure Timed (ε α : Type) where
  /-- What happens and when. -/
  trace : Trace
  /-- When it ends. -/
  finish : Nat
  /-- How it ends. -/
  outcome : Except ε α

namespace Timed

variable {ε ε' α β : Type}

/-- Work that is done at once. -/
def done (a : α) : Timed ε α := ⟨[], 0, .ok a⟩

/-- Work that fails at once. -/
def fail (e : ε) : Timed ε α := ⟨[], 0, .error e⟩

/-- Work that ends at once in a given way. -/
def ofExcept (r : Except ε α) : Timed ε α := ⟨[], 0, r⟩

/-- Makes a report. -/
def note (n : Notice) : Timed ε Unit := ⟨[(0, .note n)], 0, .ok ()⟩

/-- Work that goes on with the result of other work. -/
def bind (x : Timed ε α) (f : α → Timed ε β) : Timed ε β :=
  match x.outcome with
  | .error e => ⟨x.trace, x.finish, .error e⟩
  | .ok a =>
    let y := f a
    ⟨x.trace ++ y.trace.delayed x.finish, x.finish + y.finish, y.outcome⟩

/-- One piece of work after the other ends as its parts do. -/
theorem outcome_bind (x : Timed ε α) (f : α → Timed ε β) :
    (x.bind f).outcome = x.outcome.bind fun a => (f a).outcome := by
  unfold bind
  cases x.outcome <;> rfl

instance : Monad (Timed ε) where
  pure := done
  bind := bind

/-- Work whose failures are seen in another light. -/
def mapError (f : ε → ε') (x : Timed ε α) : Timed ε' α := ⟨x.trace, x.finish, x.outcome.mapError f⟩

/-! ### Deadlines -/

/-- Work in place that fails with `late` unless it ends within the given time. -/
def within (limit : Nat) (late : ε) (x : Timed ε α) : Timed ε α :=
  if x.finish ≤ limit then x else ⟨x.trace.upTo limit, limit, .error late⟩

/-- Tasks that fail with `late` unless they end before the given time. -/
def before (limit : Nat) (late : ε) (x : Timed ε α) : Timed ε α :=
  if x.finish < limit then x else ⟨x.trace.before limit, limit, .error late⟩

/-- Work with a deadline ends at the deadline at the latest. -/
theorem finish_within_le (limit : Nat) (late : ε) (x : Timed ε α) :
    (x.within limit late).finish ≤ limit := by
  unfold within
  split
  · assumption
  · exact Nat.le_refl _

/-- Work that succeeds in spite of a deadline is the work without one. -/
theorem eq_of_within_ok {limit : Nat} {late : ε} {x : Timed ε α} {a : α}
    (h : (x.within limit late).outcome = .ok a) : x.within limit late = x := by
  unfold within at h ⊢
  split
  · rfl
  · rename_i hl
    simp [if_neg hl] at h

/-! ### Side by side -/

/-- The times at which a piece of work goes on: whenever something happens in it, and at its
end. -/
def times (x : Timed ε α) : List Nat := x.trace.map (·.1) ++ [x.finish]

/-- Of two pieces of work side by side, the left one comes first at the given time. It does so at
the beginning, and from then on the two take turns, whichever of them it is that goes on. -/
def leftFirst (x : Timed ε α) (y : Timed ε β) (time : Nat) : Bool :=
  let earlier := (0 :: (x.times ++ y.times)).filter fun t => decide (t < time)
  earlier.eraseDups.length % 2 == 0

/-- Two pieces of work side by side. The first failure ends both. If the piece that fails comes
first at that time, nothing happens at that time in the other one any more. -/
def both (x : Timed ε α) (y : Timed ε β) : Timed ε (α × β) :=
  let leftFails (e : ε) : Timed ε (α × β) :=
    let time := x.finish
    ⟨x.trace ++ if leftFirst x y time then y.trace.before time else y.trace.upTo time, time,
      .error e⟩
  let rightFails (e : ε) : Timed ε (α × β) :=
    let time := y.finish
    ⟨(if leftFirst x y time then x.trace.upTo time else x.trace.before time) ++ y.trace, time,
      .error e⟩
  match x.outcome, y.outcome with
  | .ok a, .ok b => ⟨x.trace ++ y.trace, max x.finish y.finish, .ok (a, b)⟩
  | .error e, .ok _ => leftFails e
  | .ok _, .error e => rightFails e
  | .error e, .error e' =>
    if x.finish < y.finish ∨ x.finish = y.finish ∧ leftFirst x y x.finish = true then leftFails e
    else rightFails e'

/-- The time and the error of a failure, if the work fails. -/
def failure? (x : Timed ε α) : Option (Nat × ε) :=
  match x.outcome with
  | .ok _ => none
  | .error e => some (x.finish, e)

/-- The time and the result of a success, if the work succeeds. -/
def success? (x : Timed ε α) : Option (Nat × α) :=
  match x.outcome with
  | .ok a => some (x.finish, a)
  | .error _ => none

/-- The earliest of some failures; of several at the same time, the first in the list. -/
def earliest : List (Nat × ε) → Option (Nat × ε)
  | [] => none
  | f :: fs =>
    match earliest fs with
    | none => some f
    | some g => if f.1 ≤ g.1 then some f else some g

/-- The end of the last of some tasks. -/
def lastFinish (tasks : List (Timed ε α)) : Nat := (tasks.map finish).foldl max 0

/-- Tasks side by side. The results are in the order in which the tasks end. -/
def gather (tasks : List (Timed ε α)) : Timed ε (List α) :=
  let trace := tasks.flatMap trace
  match earliest (tasks.filterMap failure?) with
  | some (time, e) => ⟨Trace.upTo time trace, time, .error e⟩
  | none =>
    let ended := (tasks.filterMap success?).mergeSort fun a b => decide (a.1 ≤ b.1)
    ⟨trace, lastFinish tasks, .ok (ended.map (·.2))⟩

end Timed

end ActivityFeed
