import ActivityFeed.Handler

/-!
# The registry

The handlers that are in use, at most one for each kind of event.

* `ActivityFeed.Registry`, `ActivityFeed.Registry.register`;
* `ActivityFeed.Registry.get` – the handler for a tag;
* `ActivityFeed.Registry.ofKinds` – the registry with the handlers of some kinds.
-/

namespace ActivityFeed

/-- Handlers of different kinds. -/
structure Registry where
  /-- The handlers. -/
  handlers : List Handler
  /-- No kind has two handlers. -/
  distinct : (handlers.map Handler.kind).Nodup

namespace Registry

/-- No handlers. -/
def empty : Registry := ⟨[], .nil⟩

/-- The kinds that have a handler. -/
def kinds (r : Registry) : List Kind := r.handlers.map Handler.kind

/-- The registry with one handler more, unless its kind has one. -/
def register (r : Registry) (h : Handler) : Except FeedError Registry :=
  if hk : h.kind ∈ r.kinds then .error (.alreadyRegistered h.kind.tag)
  else .ok ⟨h :: r.handlers, List.nodup_cons.2 ⟨hk, r.distinct⟩⟩

/-- The handler of a kind. -/
def ofKind? (r : Registry) (k : Kind) : Option Handler := r.handlers.find? (·.kind == k)

/-- The handler for a tag. -/
def get (r : Registry) (tag : String) : Except FeedError Handler := do
  let kind ← Kind.ofTag tag
  match r.ofKind? kind with
  | some h => .ok h
  | none => .error (.handlerNotFound tag)

/-- The registry with the handlers of the given kinds. -/
def ofKinds (policy : FanoutPolicy) (kinds : List Kind) : Except FeedError Registry :=
  kinds.foldlM (fun r k => r.register (Handler.ofKind policy k)) empty

/-- The registry with the handlers of all kinds. -/
def standard (policy : FanoutPolicy) : Registry where
  handlers := Kind.all.map (Handler.ofKind policy)
  distinct := by
    show ([.article, .follow, .like] : List Kind).Nodup
    decide

/-- The tags that have a handler, in the order of their texts. -/
def tags (r : Registry) : List String := sortedTexts (r.kinds.map Kind.tag)

end Registry

end ActivityFeed
