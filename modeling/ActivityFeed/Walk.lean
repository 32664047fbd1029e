import ActivityFeed.Feed

/-!
# Walking through a timeline

A reader who wants more than one page reads page after page. Each page is asked for with the instant
of the last event of the page before it, and an empty page says that there is nothing more.

* `ActivityFeed.Walk` – the pages that were read, and why reading ended;
* `ActivityFeed.Feed.walkFor` – a walk of at most so many reads;
* `ActivityFeed.Feed.walk` – a walk to its end.

Every page that is not empty takes the walk past at least one stored event, so one read more than
there are stored events is enough as long as the stored times make sense.
-/

namespace ActivityFeed

/-- Why a walk ended. -/
inductive WalkEnd where
  /-- There was nothing more. -/
  | complete
  /-- A page could not be read. -/
  | failed (e : ServiceError)
  /-- No more reads were allowed. -/
  | unfinished
  deriving DecidableEq, Repr

/-- A walk through a timeline. -/
structure Walk where
  /-- The pages that were read, without the empty one at the end. -/
  pages : List Page
  /-- Why it ended. -/
  ending : WalkEnd
  deriving DecidableEq, Repr

/-- The walk with a page before it. -/
def Walk.cons (p : Page) (w : Walk) : Walk := ⟨p :: w.pages, w.ending⟩

namespace Feed

/-- A walk of at most so many reads. -/
def walkFor (f : Feed) : Nat → Service.Request → Timed ServiceError Walk
  | 0, _ => .done ⟨[], .unfinished⟩
  | reads + 1, r =>
    let x := f.service.timeline f.collaborators {} r
    match x.outcome with
    | .error e => ⟨x.trace, x.finish, .ok ⟨[], .failed e⟩⟩
    | .ok page =>
      match page.nextBefore? with
      | none => ⟨x.trace, x.finish, .ok ⟨[], .complete⟩⟩
      | some before => do
        let page ← x
        let rest ← f.walkFor reads { r with before := some before }
        return rest.cons page

/-- The number of stored events. -/
def eventCount (f : Feed) : Nat := f.store.inbox.length + f.store.outbox.length

/-- A walk to its end. -/
def walk (f : Feed) (r : Service.Request) : Result ServiceError Walk :=
  f.conclude (f.walkFor (f.eventCount + 1) r)

end Feed

end ActivityFeed
