import ActivityFeed.Proofs.Following
import ActivityFeed.Proofs.Reading
import ActivityFeed.Proofs.Storing

/-!
# Creating an event

The handler of a new event makes one delivery, which depends on the bag, the clock and the graph.
This file says which (`ActivityFeed.Feed.plan`), and sums up all that creating an event can do to a
feed (`ActivityFeed.Feed.create_cases`): either it fails and nothing is stored, or the planned
delivery is stored.
-/

namespace ActivityFeed

namespace Feed

variable {f : Feed} {policy : FanoutPolicy} {kinds : List Kind} {context : CallContext}
  {tag : String} {bag : Bag}

/-! ### What is to be delivered -/

/-- A new event of a kind, which happens now. -/
def newEvent (f : Feed) (kind : Kind) (bag : Bag) (uid : ℤ) : FeedEvent :=
  ⟨0, uid, kind.tag, f.now, bag⟩

/-- The delivery of a new article: it is pushed to the followers of its author, or kept if there are
too many of them. -/
def articleDelivery (f : Feed) (policy : FanoutPolicy) (bag : Bag) (author : ℤ) : Delivery :=
  if policy.pulls (f.graph.followerCount author) then .outbox (f.newEvent .article bag author)
  else .inboxes ((f.graph.byFollowee.members author).map (f.newEvent .article bag))

/-- **The delivery of a new event**: a like or a new follower is pushed to the user concerned, and
an article goes its own way. -/
def plan (f : Feed) (policy : FanoutPolicy) (kind : Kind) (bag : Bag) :
    Except FeedError Delivery :=
  match kind with
  | .like => (bag.int64 "liked").map fun uid => .inboxes [f.newEvent .like bag uid]
  | .follow => (bag.int64 "followee").map fun uid => .inboxes [f.newEvent .follow bag uid]
  | .article => (bag.int64 "uid").map (f.articleDelivery policy bag)

theorem eq_ok_of_field {α : Type} {r : Except FeedError α} {a : α}
    (h : (Handler.field r).outcome = .ok a) : r = .ok a :=
  except_mapError_eq_ok.mp h

theorem eq_of_handOver {d d' : Delivery}
    (h : (Handler.handOver f.collaborators d).outcome = .ok d') : d' = d := by
  obtain ⟨_, -, h⟩ := Timed.outcome_bind_eq_ok.mp h
  exact (Except.ok.inj h).symm

/-- A handler that pushes to one user makes that delivery. -/
theorem eq_map_of_direct {k : Kind} {key : String} {d : Delivery}
    (h : ((Handler.direct k key).create f.collaborators bag).outcome = .ok d) :
    (bag.int64 key).map (fun uid => .inboxes [f.newEvent k bag uid]) = .ok d := by
  obtain ⟨uid, hfield, h⟩ := Timed.outcome_bind_eq_ok.mp h
  rw [eq_ok_of_field hfield, eq_of_handOver h]
  rfl

/-- **A handler makes the planned delivery**, if it succeeds at all. -/
theorem plan_eq_of_create {k : Kind} {d : Delivery}
    (h : ((Handler.ofKind policy k).create f.collaborators bag).outcome = .ok d) :
    f.plan policy k bag = .ok d := by
  cases k with
  | like => exact eq_map_of_direct h
  | follow => exact eq_map_of_direct h
  | article =>
    obtain ⟨author, hfield, h⟩ := Timed.outcome_bind_eq_ok.mp h
    obtain ⟨count, hcount, h⟩ := Timed.outcome_bind_eq_ok.mp h
    obtain rfl : count = (f.graph.followerCount author : ℤ) := eq_answer_of_ask hcount
    rw [plan, eq_ok_of_field hfield]
    refine congrArg Except.ok ?_
    rw [articleDelivery]
    split at h
    · rename_i hpulls
      rw [if_pos hpulls]
      obtain ⟨_, -, h⟩ := Timed.outcome_bind_eq_ok.mp h
      exact (eq_of_handOver h).symm
    · rename_i hpulls
      rw [if_neg hpulls]
      -- the limit of this call is never below the count just read, so nobody is left out
      obtain ⟨followers, hfollowers, h⟩ := Timed.outcome_bind_eq_ok.mp h
      obtain rfl : followers = f.graph.byFollowee.members author :=
        (eq_answer_of_ask hfollowers).trans (Graph.followers_pushFetch f.graph policy author)
      obtain ⟨_, -, h⟩ := Timed.outcome_bind_eq_ok.mp h
      exact (eq_of_handOver h).symm

/-- The handler of a tag is that of a kind in use. -/
theorem exists_kind_of_get
    (hkinds : f.service.registry.handlers.Perm (kinds.map (Handler.ofKind policy))) {h : Handler}
    (hget : f.service.registry.get tag = .ok h) :
    ∃ k ∈ kinds, Kind.ofTag? tag = some k ∧ h = Handler.ofKind policy k := by
  unfold Registry.get Kind.ofTag at hget
  cases hk : Kind.ofTag? tag with
  | none => rw [hk] at hget; cases hget
  | some k =>
    simp only [hk, bind, Except.bind] at hget
    cases hfind : f.service.registry.ofKind? k with
    | none => rw [hfind] at hget; cases hget
    | some h' =>
      rw [hfind] at hget
      obtain rfl := Except.ok.inj hget
      -- what is found is the handler of some kind in use, and it is found by its kind
      obtain ⟨k', hk', rfl⟩ := List.mem_map.mp (hkinds.mem_iff.mp (List.mem_of_find?_eq_some hfind))
      have hbeq : ((Handler.ofKind policy k').kind == k) = true :=
        List.find?_some (p := fun h : Handler => h.kind == k) hfind
      have hkind : k' = k := by
        rw [← Handler.kind_ofKind policy k', eq_of_beq hbeq]
      exact ⟨k, hkind ▸ hk', rfl, by rw [hkind]⟩

/-- **The service makes the planned delivery**, if it succeeds at all. -/
theorem exists_plan_of_create
    (hkinds : f.service.registry.handlers.Perm (kinds.map (Handler.ofKind policy))) {d : Delivery}
    (h : (f.service.create f.collaborators context tag bag).outcome = .ok d) :
    ∃ k ∈ kinds, Kind.ofTag? tag = some k ∧ f.plan policy k bag = .ok d := by
  obtain ⟨_, -, h⟩ := Timed.outcome_bind_eq_ok.mp h
  obtain ⟨handler, hget, h⟩ := Timed.outcome_bind_eq_ok.mp h
  obtain ⟨k, hmem, hk, rfl⟩ := exists_kind_of_get hkinds (except_mapError_eq_ok.mp hget)
  have hcreate := Timed.outcome_mapError_eq_ok.mp (Timed.outcome_within_eq_ok.mp h).2
  exact ⟨k, hmem, hk, plan_eq_of_create hcreate⟩

end Feed

/-! ### What is stored -/

namespace Delivery

/-- The mailbox of a delivery. -/
def mailbox : Delivery → Mailbox
  | .inboxes _ => .inbox
  | .outbox _ => .outbox

/-- The events of a delivery. -/
def events : Delivery → List FeedEvent
  | .inboxes events => events
  | .outbox event => [event]

end Delivery

namespace Feed

variable {f : Feed} {policy : FanoutPolicy} {kinds : List Kind} {context : CallContext}
  {tag : String} {bag : Bag}

theorem store_accept (f : Feed) (d : Delivery) :
    (f.accept d).store = f.store.insert d.mailbox (d.events.map Row.ofEvent) := by
  cases d <;> rfl

/-- All events of a planned delivery happen now. -/
theorem exists_newEvent_of_plan {k : Kind} {d : Delivery} (h : f.plan policy k bag = .ok d)
    {e : FeedEvent} (he : e ∈ d.events) : ∃ uid, e = f.newEvent k bag uid := by
  cases k with
  | like =>
    obtain ⟨uid, -, rfl⟩ := except_map_eq_ok.mp h
    exact ⟨uid, List.mem_singleton.mp he⟩
  | follow =>
    obtain ⟨uid, -, rfl⟩ := except_map_eq_ok.mp h
    exact ⟨uid, List.mem_singleton.mp he⟩
  | article =>
    obtain ⟨author, -, rfl⟩ := except_map_eq_ok.mp h
    rw [articleDelivery] at he
    split at he
    · exact ⟨author, List.mem_singleton.mp he⟩
    · obtain ⟨uid, -, rfl⟩ := List.mem_map.mp he
      exact ⟨uid, rfl⟩

/-- **All that creating an event can do**: it fails and stores nothing, or it stores the planned
delivery. -/
theorem create_cases
    (hkinds : f.service.registry.handlers.Perm (kinds.map (Handler.ofKind policy)))
    (context : CallContext) (tag : String) (bag : Bag) :
    (∃ e, (f.create context tag bag).outcome = .error e ∧
      (f.create context tag bag).feed.store = f.store) ∨
    ∃ k ∈ kinds, ∃ d, Kind.ofTag? tag = some k ∧ f.plan policy k bag = .ok d ∧
      (f.create context tag bag).outcome = .ok () ∧
      (f.create context tag bag).feed.store =
        f.store.insert d.mailbox (d.events.map Row.ofEvent) := by
  unfold create concludeDelivery
  cases h : (f.service.create f.collaborators context tag bag).outcome with
  | error e =>
    refine Or.inl ⟨e, ?_⟩
    simp only [conclude, h, and_self]
  | ok d =>
    obtain ⟨k, hk, htag, hplan⟩ := exists_plan_of_create hkinds h
    refine Or.inr ⟨k, hk, d, htag, hplan, ?_⟩
    simp only [conclude, h, store_accept, and_self]

section Frame

variable (f context tag bag)

/-- Apart from the store and the journal, a delivery leaves the feed as it was. -/
theorem concludeDelivery_frame {ε : Type} (x : Timed ε Delivery) :
    (f.concludeDelivery x).feed.now = f.now ∧ (f.concludeDelivery x).feed.graph = f.graph ∧
      (f.concludeDelivery x).feed.service = f.service ∧
      (f.concludeDelivery x).feed.disturbances = f.disturbances := by
  unfold concludeDelivery
  cases h : x.outcome with
  | error e => simp only [conclude, h, and_self]
  | ok d => cases d <;> simp only [conclude, h, accept, and_self]

/-- Apart from the store and the journal, creating an event leaves the feed as it was. -/
theorem create_frame :
    (f.create context tag bag).feed.now = f.now ∧
      (f.create context tag bag).feed.graph = f.graph ∧
      (f.create context tag bag).feed.service = f.service ∧
      (f.create context tag bag).feed.disturbances = f.disturbances :=
  concludeDelivery_frame f _

end Frame

end Feed

end ActivityFeed
