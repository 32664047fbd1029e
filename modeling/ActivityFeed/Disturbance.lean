import ActivityFeed.Handler

/-!
# Disturbances

To see how the feed behaves when a collaborator is slow or fails, calls can be disturbed. A rule
names an operation and what happens to calls of it; of several rules for a call the latest counts,
and a rule without an effect of its own restores the usual course.

* `ActivityFeed.Disturbance` – a rule;
* `ActivityFeed.Disturbance.apply` – what becomes of a call under some rules.

A disturbed call is made when it is made: the call itself happens at once, and what was arranged
happens after the delay.
-/

namespace ActivityFeed

/-- What becomes of a disturbed call after its delay. -/
inductive Effect where
  /-- The usual answer. -/
  | answer
  /-- The collaborator is down. -/
  | fail (reason : String)
  /-- The task that made the call crashes. -/
  | crash
  deriving DecidableEq, Repr

/-- A rule that disturbs calls. -/
structure Disturbance where
  /-- The operation that is disturbed. -/
  operation : Operation
  /-- The tag that a call must be about, if it matters. -/
  tag : Option String := none
  /-- How long a call takes, in milliseconds. -/
  delay : Nat := 0
  /-- What becomes of it then. -/
  effect : Effect := .answer
  deriving DecidableEq, Repr

namespace Disturbance

/-- The rule is about the call. -/
def concerns (d : Disturbance) (c : Call) : Bool :=
  d.operation == c.operation && d.tag.all (· == c.tag)

/-- What happens after the delay, where `answer` is the usual course. -/
def effectOn {α : Type} (d : Disturbance) (answer : Work α) : Work α :=
  match d.effect with
  | .answer => answer
  | .fail reason => .fail (.error (.unavailable d.operation.collaborator reason))
  | .crash => .fail .crash

/-- What becomes of a call under the given rules, the latest rule first, where `answer` is the
usual course. -/
def apply {α : Type} (rules : List Disturbance) (c : Call) (answer : Work α) :
    Work α :=
  match rules.find? (·.concerns c) with
  | none => Timed.bind ⟨[(0, .call c)], 0, .ok ()⟩ fun _ => answer
  | some d => Timed.bind ⟨[(0, .call c)], d.delay, .ok ()⟩ fun _ => d.effectOn answer

end Disturbance

end ActivityFeed
