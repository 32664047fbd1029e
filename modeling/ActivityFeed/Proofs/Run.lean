import ActivityFeed.Proofs.Creating

/-!
# What happens to a feed

From outside, a feed is changed in four ways: somebody follows somebody, or no longer does, the
clock is set, and an event is created, be it with success or not. A run is any sequence of these.

A feed that starts with nothing stays *regular* (`ActivityFeed.Feed.Regular`) over every run, as
long as the clock shows ordinary instants: its store is sound, and the indexes of its graph are in
their order. Nothing is said about the direction in which the clock is set.
-/

namespace ActivityFeed

/-- What can happen to a feed. -/
inductive Action where
  /-- The first user follows the second from now on. -/
  | follow (follower followee : ℤ)
  /-- The first user does not follow the second any more. -/
  | unfollow (follower followee : ℤ)
  /-- The clock is set. -/
  | setClock (now : Instant)
  /-- Somebody wants an event created. -/
  | create (context : CallContext) (tag : String) (bag : Bag)
  deriving DecidableEq, Repr

/-- The clock is set to ordinary instants only. -/
def Action.Ordinary : Action → Prop
  | .setClock now => now.Ordinary
  | _ => True

instance : (a : Action) → Decidable a.Ordinary
  | .setClock now => inferInstanceAs (Decidable now.Ordinary)
  | .follow _ _ => .isTrue trivial
  | .unfollow _ _ => .isTrue trivial
  | .create _ _ _ => .isTrue trivial

namespace Feed

/-- The feed after an action. -/
def act (f : Feed) : Action → Feed
  | .follow follower followee => f.follow follower followee
  | .unfollow follower followee => f.unfollow follower followee
  | .setClock now => f.setClock now
  | .create context tag bag => (f.create context tag bag).feed

/-- The feed after a run. -/
def run (f : Feed) (actions : List Action) : Feed := actions.foldl act f

/-- **A regular feed**: the handlers of some kinds stand before a sound store and an ordered graph,
the clock shows an ordinary instant, and nothing disturbs calls. -/
structure Regular (policy : FanoutPolicy) (kinds : List Kind) (f : Feed) : Prop where
  /-- The handlers are those of the kinds. -/
  handlers : f.service.registry.handlers.Perm (kinds.map (Handler.ofKind policy))
  /-- The clock shows an ordinary instant. -/
  clock : f.now.Ordinary
  /-- The graph is in its order. -/
  graph : f.graph.Ordered
  /-- The store is sound. -/
  store : f.store.Sound
  /-- Nothing disturbs calls. -/
  calm : f.disturbances = []

variable {f : Feed} {policy : FanoutPolicy} {kinds : List Kind}

/-- A feed in which nothing has happened is regular. -/
theorem regular_start (policy : FanoutPolicy) (settings : Settings) {now : Instant}
    (hnow : now.Ordinary) :
    (start ⟨.standard policy, settings⟩ now).Regular policy Kind.all where
  handlers := .refl _
  clock := hnow
  graph := Graph.ordered_empty
  store := Store.sound_empty
  calm := rfl

/-- The events of a planned delivery happen at an ordinary instant. -/
theorem Regular.ordinary_of_plan (h : f.Regular policy kinds) {k : Kind} {bag : Bag}
    {d : Delivery} (hplan : f.plan policy k bag = .ok d) :
    ∀ e ∈ d.events, e.createdAt.Ordinary := by
  intro e he
  obtain ⟨uid, rfl⟩ := exists_newEvent_of_plan hplan he
  exact h.clock

/-- **An action leaves a regular feed regular.** -/
theorem Regular.act (h : f.Regular policy kinds) {a : Action} (ha : a.Ordinary) :
    (f.act a).Regular policy kinds := by
  cases a with
  | follow follower followee => exact { h with graph := h.graph.follow follower followee }
  | unfollow follower followee => exact { h with graph := h.graph.unfollow follower followee }
  | setClock now => exact { h with clock := ha }
  | create context tag bag =>
    obtain ⟨hnow, hgraph, hservice, hcalm⟩ := create_frame f context tag bag
    refine ⟨?_, ?_, ?_, ?_, hcalm.trans h.calm⟩
    · exact hservice ▸ h.handlers
    · exact hnow ▸ h.clock
    · exact hgraph ▸ h.graph
    · change (f.create context tag bag).feed.store.Sound
      rcases create_cases h.handlers context tag bag with
        ⟨_, -, hstore⟩ | ⟨k, -, d, -, hplan, -, hstore⟩
      · exact hstore ▸ h.store
      · rw [hstore]
        refine h.store.insert _ fun r hr => ?_
        obtain ⟨e, he, rfl⟩ := List.mem_map.mp hr
        exact (h.ordinary_of_plan hplan e he).milliInCalendar

/-- **A run leaves a regular feed regular.** -/
theorem Regular.run (h : f.Regular policy kinds) {actions : List Action}
    (ha : ∀ a ∈ actions, a.Ordinary) : (f.run actions).Regular policy kinds := by
  induction actions generalizing f with
  | nil => exact h
  | cons a actions ih =>
    exact ih (h.act (ha a List.mem_cons_self)) fun b hb => ha b (List.mem_cons_of_mem a hb)

/-- A run leaves the service as it was. -/
theorem service_run (f : Feed) (actions : List Action) : (f.run actions).service = f.service := by
  induction actions generalizing f with
  | nil => rfl
  | cons a actions ih =>
    refine (ih (f.act a)).trans ?_
    cases a with
    | create context tag bag => exact (create_frame f context tag bag).2.2.1
    | _ => rfl

end Feed

end ActivityFeed
