import ActivityFeed.Proofs.Creating
import ActivityFeed.Proofs.Fields

/-!
# All or nothing

Creating an event asks the social graph, and the graph may reply anything after any time: a number
of followers that does not fit the list of them, an error, a crash, or nothing before the deadline.
Here the replies are arbitrary (`ActivityFeed.Reply`), and the call is otherwise the one that runs
(`ActivityFeed.Feed.createAmid`, and `ActivityFeed.Feed.create_eq_createAmid` for the replies of the
feed itself).

Whatever can go wrong does so before the delivery, which is the last thing that happens and takes no
time (`ActivityFeed.Timed.Ends`). So the deliveries made up to the end of the call are either the
one that was decided upon (`ActivityFeed.Decided`) or none, and that is what is stored
(`ActivityFeed.Feed.create_all_or_nothing`).
-/

namespace ActivityFeed

/-! ### The deliveries of a trace -/

/-- The delivery that happens, if any. -/
def Happening.delivery? : Happening → Option Delivery
  | .call (.deliver d) => some d
  | _ => none

namespace Trace

/-- The deliveries of a trace with their times. -/
def deliveries (t : Trace) : List (ℕ × Delivery) :=
  t.filterMap fun p => p.2.delivery?.map fun d => (p.1, d)

theorem deliveries_append (t u : Trace) :
    deliveries (t ++ u) = t.deliveries ++ u.deliveries := List.filterMap_append

theorem deliveries_delayed (delay : ℕ) (t : Trace) :
    (t.delayed delay).deliveries = t.deliveries.map fun p => (delay + p.1, p.2) := by
  simp only [deliveries, delayed, List.filterMap_map, List.map_filterMap, Option.map_map]
  rfl

theorem deliveries_upTo (time : ℕ) (t : Trace) :
    (t.upTo time).deliveries = t.deliveries.filter fun p => decide (p.1 ≤ time) := by
  rw [deliveries, upTo, List.filterMap_filter, deliveries, List.filter_filterMap]
  refine congrArg (List.filterMap · t) (funext fun p => ?_)
  cases p.2.delivery? <;> simp [Option.filter]

end Trace

/-! ### The course of a piece of work -/

namespace Timed

variable {ε ε' α β : Type} {time time' : ℕ} {delivered : List Delivery}

/-- **The work ends** at a time and in a way, and what it delivers it delivers at its end. -/
structure Ends (x : Timed ε α) (time : ℕ) (r : Except ε α) (delivered : List Delivery) : Prop where
  /-- It ends at this time. -/
  finish : x.finish = time
  /-- It ends in this way. -/
  outcome : x.outcome = r
  /-- It delivers this, and not before its end. -/
  deliveries : x.trace.deliveries = delivered.map fun d => (time, d)

namespace Ends

theorem pure (a : α) : Ends (Pure.pure a : Timed ε α) 0 (.ok a) [] := ⟨rfl, rfl, rfl⟩

theorem note (n : Notice) : Ends (Timed.note n : Timed ε Unit) 0 (.ok ()) [] := ⟨rfl, rfl, rfl⟩

theorem ofExcept (r : Except ε α) : Ends (Timed.ofExcept r) 0 r [] := ⟨rfl, rfl, rfl⟩

/-- One piece of work goes on where the other ended. -/
theorem bind {x : Timed ε α} {f : α → Timed ε β} {a : α} {r : Except ε β}
    (hx : Ends x time (.ok a) []) (hf : Ends (f a) time' r delivered) :
    Ends (x >>= f) (time + time') r delivered := by
  rw [bind_of_ok hx.outcome]
  refine ⟨congrArg₂ (· + ·) hx.finish hf.finish, hf.outcome, ?_⟩
  rw [Trace.deliveries_append, hx.deliveries, Trace.deliveries_delayed, hf.deliveries, hx.finish,
    List.map_map]
  rfl

/-- What follows work that is over at once ends when it ends. -/
theorem bind_of_atOnce {x : Timed ε α} {f : α → Timed ε β} {a : α} {r : Except ε β}
    (hx : Ends x 0 (.ok a) []) (hf : Ends (f a) time r delivered) :
    Ends (x >>= f) time r delivered := Nat.zero_add time ▸ hx.bind hf

/-- Work that is followed by what is over at once ends when it ends. -/
theorem bind_atOnce {x : Timed ε α} {f : α → Timed ε β} {a : α} {r : Except ε β}
    (hx : Ends x time (.ok a) []) (hf : Ends (f a) 0 r delivered) :
    Ends (x >>= f) time r delivered := hx.bind hf

/-- Nothing goes on after a failure. -/
theorem bind_error {x : Timed ε α} {e : ε} (hx : Ends x time (.error e) delivered)
    (f : α → Timed ε β) : Ends (x >>= f) time (.error e) delivered := by
  rw [bind_of_error hx.outcome]
  exact ⟨hx.finish, rfl, hx.deliveries⟩

theorem mapError {x : Timed ε α} {r : Except ε α} (hx : Ends x time r delivered) (f : ε → ε') :
    Ends (x.mapError f) time (r.mapError f) delivered :=
  ⟨hx.finish, congrArg (Except.mapError f) hx.outcome, hx.deliveries⟩

/-- Work that ends in time does not see its deadline. -/
theorem within {x : Timed ε α} {r : Except ε α} (hx : Ends x time r delivered) {limit : ℕ}
    (hle : time ≤ limit) (late : ε) : Ends (x.within limit late) time r delivered := by
  unfold Timed.within
  rwa [if_pos (hx.finish.trans_le hle)]

/-- **Work that is too late delivers nothing.** -/
theorem within_late {x : Timed ε α} {r : Except ε α} (hx : Ends x time r delivered) {limit : ℕ}
    (hlt : limit < time) (late : ε) : Ends (x.within limit late) limit (.error late) [] := by
  unfold Timed.within
  rw [if_neg (by rw [hx.finish]; omega)]
  refine ⟨rfl, rfl, ?_⟩
  -- all that it would have delivered lies behind the deadline
  rw [Trace.deliveries_upTo, hx.deliveries, List.map_nil, List.filter_eq_nil_iff]
  intro p hp
  obtain ⟨d, -, rfl⟩ := List.mem_map.mp hp
  simpa using hlt

end Ends

end Timed

/-! ### Arbitrary replies -/

/-- A reply to a question: after a delay an answer, an error or a crash. -/
structure Reply (α : Type) where
  /-- How long it takes. -/
  delay : ℕ
  /-- What it is. -/
  answer : Except (Failure FeedError) α

/-- Asks a question and waits for the reply. -/
def Reply.work {q : Query} (reply : Reply q.Answer) : Work q.Answer :=
  Timed.bind ⟨[(0, .call (.ask q))], reply.delay, .ok ()⟩ fun _ => .ofExcept reply.answer

theorem Reply.ends_work {q : Query} (reply : Reply q.Answer) :
    reply.work.Ends reply.delay reply.answer [] := by
  have hcall : Timed.Ends (⟨[(0, .call (.ask q))], reply.delay, .ok ()⟩ : Work Unit) reply.delay
      (.ok ()) [] := ⟨rfl, rfl, rfl⟩
  exact hcall.bind_atOnce (.ofExcept reply.answer)

namespace Feed

variable {f : Feed} {policy : FanoutPolicy} {kinds : List Kind} {context : CallContext}
  {tag : String} {bag : Bag} {replies : (q : Query) → Reply q.Answer}

/-- What the handlers see of the feed if their questions get the given replies. -/
def amid (f : Feed) (replies : (q : Query) → Reply q.Answer) : Collaborators where
  now := f.now
  ask q := (replies q).work
  deliver d := Disturbance.apply [] (.deliver d) (.done ())

/-- Creates an event while the questions of its handler get the given replies. -/
def createAmid (f : Feed) (replies : (q : Query) → Reply q.Answer) (context : CallContext)
    (tag : String) (bag : Bag) : Result (Failure ServiceError) Unit :=
  f.concludeDelivery (f.service.create (f.amid replies) context tag bag)

end Feed

/-! ### What is decided -/

/-- How long creating an event may take. -/
def Service.writeDeadline (s : Service) (context : CallContext) : ℕ :=
  context.timeout.getD s.settings.writeTimeout

/-- The field of the bag that names the user concerned. -/
def Kind.key : Kind → String
  | .article => "uid"
  | .follow => "followee"
  | .like => "liked"

/-- **What is decided about a new event** of a kind with a bag, and when: where it is to be stored
and for whom, or that it comes to nothing. An article goes to its author's outbox if the number of
followers is above the threshold, and otherwise to the followers in the list, whatever their
number. -/
inductive Decided (policy : FanoutPolicy) (replies : (q : Query) → Reply q.Answer) (bag : Bag) :
    Kind → ℕ → Except (Failure FeedError) (Mailbox × List ℤ) → Prop
  /-- The bag does not name the user concerned. -/
  | badField {k : Kind} {e : FeedError} (field : bag.int64 k.key = .error e) :
    Decided policy replies bag k 0 (.error (.error e))
  /-- Likes and new followers are told to the user concerned. -/
  | told {k : Kind} {uid : ℤ} (other : k ≠ .article) (field : bag.int64 k.key = .ok uid) :
    Decided policy replies bag k 0 (.ok (.inbox, [uid]))
  /-- The followers could not be counted. -/
  | noCount {author : ℤ} {failure : Failure FeedError}
    (field : bag.int64 Kind.article.key = .ok author)
    (counted : (replies (.followerCount author)).answer = .error failure) :
    Decided policy replies bag .article (replies (.followerCount author)).delay (.error failure)
  /-- There are many followers, who will pull the article. -/
  | kept {author count : ℤ} (field : bag.int64 Kind.article.key = .ok author)
    (counted : (replies (.followerCount author)).answer = .ok count)
    (many : policy.threshold < count) :
    Decided policy replies bag .article (replies (.followerCount author)).delay
      (.ok (.outbox, [author]))
  /-- The followers could not be listed. -/
  | noList {author count : ℤ} {failure : Failure FeedError}
    (field : bag.int64 Kind.article.key = .ok author)
    (counted : (replies (.followerCount author)).answer = .ok count)
    (few : count ≤ policy.threshold)
    (listed : (replies (.followers author (policy.pushFetch count))).answer = .error failure) :
    Decided policy replies bag .article ((replies (.followerCount author)).delay +
      (replies (.followers author (policy.pushFetch count))).delay) (.error failure)
  /-- The article is pushed to the followers in the list. -/
  | pushed {author count : ℤ} {followers : List ℤ}
    (field : bag.int64 Kind.article.key = .ok author)
    (counted : (replies (.followerCount author)).answer = .ok count)
    (few : count ≤ policy.threshold)
    (listed : (replies (.followers author (policy.pushFetch count))).answer = .ok followers) :
    Decided policy replies bag .article ((replies (.followerCount author)).delay +
      (replies (.followers author (policy.pushFetch count))).delay) (.ok (.inbox, followers))

namespace Feed

variable {f : Feed} {policy : FanoutPolicy} {kinds : List Kind} {context : CallContext}
  {tag : String} {bag : Bag} {replies : (q : Query) → Reply q.Answer}

/-- **The work does what was decided**, and does it at its end: it delivers a new event to everybody
concerned, or it fails and delivers nothing. -/
def Does {ε : Type} (f : Feed) (k : Kind) (bag : Bag) (g : Failure FeedError → ε)
    (x : Timed ε Delivery) (time : ℕ) : Except (Failure FeedError) (Mailbox × List ℤ) → Prop
  | .error failure => x.Ends time (.error (g failure)) []
  | .ok (m, owners) => ∃ d : Delivery, d.mailbox = m ∧
    d.events = owners.map (f.newEvent k bag) ∧ x.Ends time (.ok d) [d]

theorem Does.ends {ε : Type} {k : Kind} {g : Failure FeedError → ε} {x : Timed ε Delivery}
    {time : ℕ} {r : Except (Failure FeedError) (Mailbox × List ℤ)}
    (h : f.Does k bag g x time r) : ∃ r' delivered, x.Ends time r' delivered := by
  cases r with
  | error failure => exact ⟨_, _, h⟩
  | ok p =>
    obtain ⟨d, -, -, hd⟩ := h
    exact ⟨_, _, hd⟩

/-- Work that ends as other work does, apart from the light in which failures are seen, does what
the other work does. -/
theorem Does.of_ends {ε ε' : Type} {k : Kind} {g : Failure FeedError → ε} {g' : ε → ε'}
    {x : Timed ε Delivery} {y : Timed ε' Delivery} {time : ℕ}
    {r : Except (Failure FeedError) (Mailbox × List ℤ)} (h : f.Does k bag g x time r)
    (hends : ∀ r' delivered, x.Ends time r' delivered → y.Ends time (r'.mapError g') delivered) :
    f.Does k bag (g' ∘ g) y time r := by
  cases r with
  | error failure => exact hends _ _ h
  | ok p =>
    obtain ⟨d, hm, he, hd⟩ := h
    exact ⟨d, hm, he, hends _ _ hd⟩

theorem ends_handOver (d : Delivery) :
    (Handler.handOver (f.amid replies) d).Ends 0 (.ok d) [d] := ⟨rfl, rfl, rfl⟩

theorem ends_ask {q : Query} {r : Except (Failure FeedError) q.Answer}
    (h : (replies q).answer = r) : ((f.amid replies).ask q).Ends (replies q).delay r [] :=
  h ▸ (replies q).ends_work

theorem ends_field_ok {α : Type} {r : Except FeedError α} {a : α} (h : r = .ok a) :
    (Handler.field r).Ends 0 (.ok a) [] := h ▸ .ofExcept _

theorem ends_field_error {α : Type} {r : Except FeedError α} {e : FeedError} (h : r = .error e) :
    (Handler.field r).Ends 0 (.error (.error e)) [] := h ▸ .ofExcept _

/-- A handler that pushes to one user does what is decided. -/
theorem exists_decided_direct {k : Kind} (hk : k ≠ .article) :
    ∃ time r, Decided policy replies bag k time r ∧
      f.Does k bag id ((Handler.direct k k.key).create (f.amid replies) bag) time r := by
  cases hfield : bag.int64 k.key with
  | error e => exact ⟨_, _, .badField hfield, (ends_field_error hfield).bind_error _⟩
  | ok uid =>
    refine ⟨_, _, .told hk hfield, .inboxes [f.newEvent k bag uid], rfl, rfl, ?_⟩
    refine (ends_field_ok hfield).bind_atOnce ?_
    exact ends_handOver _

/-- The handler of articles does what is decided. -/
theorem exists_decided_article :
    ∃ time r, Decided policy replies bag .article time r ∧
      f.Does .article bag id (Handler.Article.create policy (f.amid replies) bag) time r := by
  cases hfield : bag.int64 Kind.article.key with
  | error e => exact ⟨_, _, .badField hfield, (ends_field_error hfield).bind_error _⟩
  | ok author =>
    have hauthor := ends_field_ok hfield
    cases hcount : (replies (.followerCount author)).answer with
    | error failure =>
      refine ⟨_, _, .noCount hfield hcount, hauthor.bind_of_atOnce ?_⟩
      exact (ends_ask hcount).bind_error _
    | ok count =>
      by_cases hmany : policy.threshold < count
      · refine ⟨_, _, .kept hfield hcount hmany, .outbox (f.newEvent .article bag author), rfl, rfl,
          hauthor.bind_of_atOnce ((ends_ask hcount).bind_atOnce ?_)⟩
        rw [if_pos (show policy.pulls count = true from decide_eq_true hmany)]
        refine (Timed.Ends.note _).bind_atOnce ?_
        exact ends_handOver _
      · have hfew := Int.not_lt.mp hmany
        have hpulls : ¬policy.pulls count = true := by simpa [FanoutPolicy.pulls] using hfew
        cases hlist : (replies (.followers author (policy.pushFetch count))).answer with
        | error failure =>
          refine ⟨_, _, .noList hfield hcount hfew hlist,
            hauthor.bind_of_atOnce ((ends_ask hcount).bind ?_)⟩
          rw [if_neg hpulls]
          exact (ends_ask hlist).bind_error _
        | ok followers =>
          refine ⟨_, _, .pushed hfield hcount hfew hlist,
            .inboxes (followers.map (f.newEvent .article bag)), rfl, rfl,
            hauthor.bind_of_atOnce ((ends_ask hcount).bind ?_)⟩
          rw [if_neg hpulls]
          refine (ends_ask hlist).bind_atOnce ((Timed.Ends.note _).bind_atOnce ?_)
          exact ends_handOver _

/-- **A handler does what is decided.** -/
theorem exists_decided (f : Feed) (policy : FanoutPolicy) (replies : (q : Query) → Reply q.Answer)
    (bag : Bag) (k : Kind) :
    ∃ time r, Decided policy replies bag k time r ∧
      f.Does k bag id ((Handler.ofKind policy k).create (f.amid replies) bag) time r := by
  cases k with
  | article => exact exists_decided_article
  | follow => exact exists_decided_direct (by decide)
  | like => exact exists_decided_direct (by decide)

/-! ### The course of the call -/

/-- A tag has the handler of its kind, or none. -/
theorem get_cases
    (hkinds : f.service.registry.handlers.Perm (kinds.map (Handler.ofKind policy)))
    (tag : String) :
    (∃ k ∈ kinds, tag = k.tag ∧ f.service.registry.get tag = .ok (Handler.ofKind policy k)) ∨
    ((∀ k ∈ kinds, tag ≠ k.tag) ∧
      f.service.registry.get tag = .error (.handlerNotFound tag)) := by
  cases hget : f.service.registry.get tag with
  | ok h =>
    obtain ⟨k, hk, htag, rfl⟩ := exists_kind_of_get hkinds hget
    exact .inl ⟨k, hk, Kind.eq_tag_of_ofTag? htag, rfl⟩
  | error e =>
    refine .inr ⟨fun k hk htag => ?_, ?_⟩
    · -- the handler of the kind would have been found
      have hmem : Handler.ofKind policy k ∈ f.service.registry.handlers :=
        hkinds.mem_iff.mpr (List.mem_map_of_mem hk)
      have hfound : (f.service.registry.ofKind? k).isSome :=
        List.find?_isSome.mpr ⟨_, hmem, by rw [Handler.kind_ofKind, beq_self_eq_true]⟩
      obtain ⟨h, hh⟩ := Option.isSome_iff_exists.mp hfound
      rw [htag, Registry.get, Kind.ofTag, Kind.ofTag?_tag] at hget
      simp only [bind, Except.bind, hh] at hget
      cases hget
    · unfold Registry.get Kind.ofTag at hget
      cases hk : Kind.ofTag? tag with
      | none => rw [hk] at hget; exact hget.symm
      | some k =>
        simp only [hk, bind, Except.bind] at hget
        cases hfind : f.service.registry.ofKind? k with
        | none => rw [hfind] at hget; exact hget.symm
        | some h => rw [hfind] at hget; cases hget

/-- **The course of creating an event**: the tag has no handler, or the handler does what is decided,
unless that is too late. -/
theorem create_course
    (hkinds : f.service.registry.handlers.Perm (kinds.map (Handler.ofKind policy)))
    (replies : (q : Query) → Reply q.Answer) (context : CallContext) (tag : String) (bag : Bag) :
    let x := f.service.create (f.amid replies) context tag bag
    let deadline := f.service.writeDeadline context
    (x.Ends 0 (.error (.error (.domain (.handlerNotFound tag)))) [] ∧ ∀ k ∈ kinds, tag ≠ k.tag) ∨
    ∃ k ∈ kinds, tag = k.tag ∧ ∃ time r, Decided policy replies bag k time r ∧
      (time ≤ deadline ∧ f.Does k bag (.map .domain) x time r ∨
        deadline < time ∧ x.Ends deadline (.error (.error (.timeout "create_event" deadline))) []) := by
  intro x deadline
  have hx : x = (Timed.note (.createBegun tag context.requestId) >>= fun _ =>
    Timed.ofExcept ((f.service.registry.get tag).mapError fun e => .error (.domain e)) >>=
      fun handler => ((handler.create (f.amid replies) bag).mapError (.map .domain)).within deadline
        (.error (.timeout "create_event" deadline))) := rfl
  rcases get_cases hkinds tag with ⟨k, hk, htag, hget⟩ | ⟨hnone, hget⟩
  · refine .inr ⟨k, hk, htag, ?_⟩
    obtain ⟨time, r, hdecided, hdoes⟩ := exists_decided f policy replies bag k
    refine ⟨time, r, hdecided, ?_⟩
    -- the handler is found at once, and from then on the deadline counts
    have hcall : ∀ {time r' delivered}, Timed.Ends
        ((((Handler.ofKind policy k).create (f.amid replies) bag).mapError (.map .domain)).within
          deadline (.error (.timeout "create_event" deadline))) time r' delivered →
        x.Ends time r' delivered := by
      intro time r' delivered hends
      rw [hx, hget]
      exact (Timed.Ends.note _).bind_of_atOnce ((Timed.Ends.ofExcept _).bind_of_atOnce hends)
    by_cases hle : time ≤ deadline
    · exact .inl ⟨hle, hdoes.of_ends fun r' delivered h => hcall ((h.mapError _).within hle _)⟩
    · obtain ⟨r', delivered, hends⟩ := hdoes.ends
      have hlt := Nat.lt_of_not_le hle
      exact .inr ⟨hlt, hcall ((hends.mapError _).within_late hlt _)⟩
  · rw [hget] at hx
    refine .inl ⟨?_, hnone⟩
    rw [hx]
    exact (Timed.Ends.note _).bind_of_atOnce ((Timed.Ends.ofExcept _).bind_error _)

end Feed

/-! ### Why an event is not created -/

theorem exists_fault_of_int64 {bag : Bag} {key : String} {e : FeedError}
    (h : bag.int64 key = .error e) : ∃ fault, e = .field key fault := by
  cases hget : bag.get? key with
  | none =>
    rw [Bag.int64_of_absent hget] at h
    exact ⟨_, (Except.error.inj h).symm⟩
  | some s =>
    rw [Bag.int64_of_present hget, except_mapError_eq_error] at h
    obtain ⟨fault, -, rfl⟩ := h
    exact ⟨fault, rfl⟩

/-- **Why an event is not created**, where the handlers are those of some kinds. -/
inductive NotCreated (policy : FanoutPolicy) (kinds : List Kind)
    (replies : (q : Query) → Reply q.Answer) (deadline : ℕ) (tag : String) (bag : Bag) :
    Failure ServiceError → Prop
  /-- The tag has no handler. -/
  | noHandler (none : ∀ k ∈ kinds, tag ≠ k.tag) :
    NotCreated policy kinds replies deadline tag bag (.error (.domain (.handlerNotFound tag)))
  /-- It was decided in time that it comes to nothing. -/
  | failed {k : Kind} {time : ℕ} {failure : Failure FeedError} (mem : k ∈ kinds) (tagged : tag = k.tag)
    (decided : Decided policy replies bag k time (.error failure)) (inTime : time ≤ deadline) :
    NotCreated policy kinds replies deadline tag bag (failure.map .domain)
  /-- It was not decided in time. -/
  | late {k : Kind} {time : ℕ} {r : Except (Failure FeedError) (Mailbox × List ℤ)} (mem : k ∈ kinds)
    (tagged : tag = k.tag) (decided : Decided policy replies bag k time r) (late : deadline < time) :
    NotCreated policy kinds replies deadline tag bag (.error (.timeout "create_event" deadline))

/-- If the graph fails only by being unavailable, callers are told one of four things. -/
theorem NotCreated.kind {policy : FanoutPolicy} {kinds : List Kind}
    {replies : (q : Query) → Reply q.Answer} {deadline : ℕ} {tag : String} {bag : Bag}
    {e : Failure ServiceError} (h : NotCreated policy kinds replies deadline tag bag e)
    (hreplies : ∀ q failure, (replies q).answer = .error failure →
      ∃ collaborator reason, failure = .error (.unavailable collaborator reason)) :
    ∃ error, e = .error error ∧ error.kind ∈ [ErrorKind.handlerNotFound, .missingOrInvalidField,
      .collaboratorUnavailable, .timeout] := by
  cases h with
  | noHandler none => exact ⟨_, rfl, by simp [ServiceError.kind]⟩
  | late mem tagged decided late => exact ⟨_, rfl, by simp [ServiceError.kind]⟩
  | failed mem tagged decided inTime =>
    have hunavailable : ∀ {q failure}, (replies q).answer = .error failure → ∃ error : ServiceError,
        failure.map .domain = .error error ∧ error.kind = .collaboratorUnavailable := by
      intro q failure hfailure
      obtain ⟨collaborator, reason, rfl⟩ := hreplies q failure hfailure
      exact ⟨_, rfl, rfl⟩
    cases decided with
    | badField field =>
      obtain ⟨fault, rfl⟩ := exists_fault_of_int64 field
      exact ⟨_, rfl, by simp [ServiceError.kind]⟩
    | noCount field counted =>
      obtain ⟨error, herror, hkind⟩ := hunavailable counted
      exact ⟨error, herror, by simp [hkind]⟩
    | noList field counted few listed =>
      obtain ⟨error, herror, hkind⟩ := hunavailable listed
      exact ⟨error, herror, by simp [hkind]⟩

/-! ### What is stored -/

/-- The store with some deliveries, one after the other. -/
def Store.receive (s : Store) (deliveries : List (ℕ × Delivery)) : Store :=
  deliveries.foldl (fun s p => s.insert p.2.mailbox (p.2.events.map Row.ofEvent)) s

namespace Feed

variable {f : Feed} {policy : FanoutPolicy} {kinds : List Kind} {context : CallContext}
  {tag : String} {bag : Bag} {replies : (q : Query) → Reply q.Answer}

/-- A call that fails without a delivery changes no row. -/
theorem concludeDelivery_of_error {ε : Type} {x : Timed ε Delivery} {time : ℕ} {e : ε}
    (h : x.Ends time (.error e) []) :
    (f.concludeDelivery x).outcome = .error e ∧ (f.concludeDelivery x).feed.store = f.store ∧
      f.store.receive x.trace.deliveries = f.store := by
  rw [h.deliveries]
  simp only [concludeDelivery, conclude, h.outcome, true_and]
  rfl

/-- A call that makes a delivery at its end stores it. -/
theorem concludeDelivery_of_ok {ε : Type} {x : Timed ε Delivery} {time : ℕ} {d : Delivery}
    (h : x.Ends time (.ok d) [d]) :
    (f.concludeDelivery x).outcome = .ok () ∧
      (f.concludeDelivery x).feed.store = f.store.insert d.mailbox (d.events.map Row.ofEvent) ∧
      f.store.receive x.trace.deliveries =
        f.store.insert d.mailbox (d.events.map Row.ofEvent) := by
  rw [h.deliveries]
  simp only [concludeDelivery, conclude, h.outcome, store_accept, true_and]
  rfl

/-- **The rows of a new event** for some owners. -/
structure Written (f : Feed) (k : Kind) (bag : Bag) (owners : List ℤ) (rows : List Row) : Prop where
  /-- Each owner has a row, in the order of the owners. -/
  owners : rows.map Row.uid = owners
  /-- The rows have the numbers that are next. -/
  numbers : rows.map Row.id = (List.range' (f.store.issued + 1) rows.length).map Nat.cast
  /-- If all rows of the store have numbers that were given out, the new numbers are new. -/
  fresh : (∀ r ∈ f.store.inbox ++ f.store.outbox, r.id ≤ (f.store.issued : ℤ)) →
    ∀ r ∈ rows, ∀ r' ∈ f.store.inbox ++ f.store.outbox, r.id ≠ r'.id
  /-- Each row has the tag, the bag and the time of the event. -/
  event : ∀ r ∈ rows, r.tag = k.tag ∧ Bag.ofContent? r.content = .ok bag ∧ r.ctime = f.now.millis

theorem written_numbered (f : Feed) (k : Kind) (bag : Bag) (owners : List ℤ) :
    f.Written k bag owners (Store.numbered f.store.issued
      ((owners.map (f.newEvent k bag)).map Row.ofEvent)) where
  owners := by
    rw [Store.map_numbered fun _ _ => rfl, List.map_map, List.map_map]
    exact List.map_id _
  numbers := by
    rw [Store.map_id_numbered, Store.length_numbered]
  fresh hissued r hr r' hr' := by
    have hnew := (Store.id_of_mem_numbered hr).1
    have hold := hissued r' hr'
    omega
  event r hr := by
    have hmem := List.mem_map_of_mem (f := fun r : Row => (r.tag, r.content, r.ctime)) hr
    rw [Store.map_numbered fun _ _ => rfl, List.map_map, List.map_map] at hmem
    obtain ⟨uid, -, heq⟩ := List.mem_map.mp hmem
    obtain ⟨htag, hcontent, hctime⟩ := Prod.mk.inj heq |>.imp id Prod.mk.inj
    exact ⟨htag.symm, hcontent ▸ Bag.ofContent?_content bag, hctime.symm⟩

/-! ### The replies of the feed itself -/

/-- What the feed replies to a question, as its rules disturb the calls. -/
def reply (f : Feed) (q : Query) : Reply q.Answer :=
  match f.disturbances.find? (·.concerns (.ask q)) with
  | none => ⟨0, .ok (answer f.graph f.store q)⟩
  | some d => ⟨d.delay, match d.effect with
    | .answer => .ok (answer f.graph f.store q)
    | .fail reason => .error (.error (.unavailable d.operation.collaborator reason))
    | .crash => .error .crash⟩

/-- A question to the graph gets the reply of the feed. -/
theorem ask_eq_work {q : Query} (hq : rowsFor f.store q = []) :
    f.collaborators.ask q = (f.reply q).work := by
  have hanswering : answering f.graph f.store q = .ofExcept (.ok (answer f.graph f.store q)) := by
    rw [answering, hq]
    rfl
  change Disturbance.apply _ _ _ = _
  rw [Disturbance.apply, reply, hanswering]
  cases f.disturbances.find? (·.concerns (.ask q)) with
  | none => rfl
  | some d =>
    obtain ⟨operation, about, delay, effect⟩ := d
    cases effect <;> rfl

/-- A delivery that no rule is about is accepted. -/
theorem deliver_eq (h : ∀ d ∈ f.disturbances, d.operation ≠ .push ∧ d.operation ≠ .keep)
    (d : Delivery) : f.collaborators.deliver d = (f.amid f.reply).deliver d := by
  have hnone : f.disturbances.find? (·.concerns (.deliver d)) = none := by
    refine List.find?_eq_none.mpr fun rule hrule hconcerns => ?_
    obtain ⟨hop, -⟩ := Bool.and_eq_true_iff.mp hconcerns
    cases d with
    | inboxes events => exact (h rule hrule).1 (eq_of_beq hop)
    | outbox event => exact (h rule hrule).2 (eq_of_beq hop)
  change Disturbance.apply f.disturbances (.deliver d) (.done ()) = _
  rw [Disturbance.apply, hnone]
  rfl

/-- **Creating an event is creating it amid the replies of the feed itself**, as long as no rule
disturbs deliveries. -/
theorem create_eq_createAmid
    (hkinds : f.service.registry.handlers.Perm (kinds.map (Handler.ofKind policy)))
    (h : ∀ d ∈ f.disturbances, d.operation ≠ .push ∧ d.operation ≠ .keep) (context : CallContext)
    (tag : String) (bag : Bag) :
    f.create context tag bag = f.createAmid f.reply context tag bag := by
  have hdeliver : f.collaborators.deliver = (f.amid f.reply).deliver := funext (deliver_eq h)
  have hhandOver : Handler.handOver f.collaborators = Handler.handOver (f.amid f.reply) := by
    unfold Handler.handOver
    rw [hdeliver]
  have hcount : ∀ uid, f.collaborators.ask (.followerCount uid) =
      (f.amid f.reply).ask (.followerCount uid) := fun _ => ask_eq_work rfl
  have hlist : ∀ uid limit, f.collaborators.ask (.followers uid limit) =
      (f.amid f.reply).ask (.followers uid limit) := fun _ _ => ask_eq_work rfl
  -- handlers ask for nothing else when they create an event
  have hcreate : ∀ k, (Handler.ofKind policy k).create f.collaborators bag =
      (Handler.ofKind policy k).create (f.amid f.reply) bag := by
    intro k
    cases k with
    | article =>
      change Handler.Article.create _ _ _ = Handler.Article.create _ _ _
      unfold Handler.Article.create
      simp only [hhandOver, hcount, hlist]
      rfl
    | _ =>
      change (Handler.field _ >>= fun uid => Handler.handOver f.collaborators _) =
        (Handler.field _ >>= fun uid => Handler.handOver (f.amid f.reply) _)
      rw [hhandOver]
      rfl
  refine congrArg f.concludeDelivery (Timed.bind_congr fun _ _ => Timed.bind_congr ?_)
  intro handler hhandler
  obtain ⟨k, -, -, rfl⟩ := exists_kind_of_get hkinds (except_mapError_eq_ok.mp hhandler)
  rw [hcreate k]

/-! ### All or nothing -/

/-- **All that creating an event can do** amid arbitrary replies: it stores what was decided, or it
does not create the event and changes no row. -/
theorem createAmid_cases
    (hkinds : f.service.registry.handlers.Perm (kinds.map (Handler.ofKind policy)))
    (replies : (q : Query) → Reply q.Answer) (context : CallContext) (tag : String) (bag : Bag) :
    let result := f.createAmid replies context tag bag
    let deadline := f.service.writeDeadline context
    (∃ k ∈ kinds, tag = k.tag ∧ ∃ time m owners,
      Decided policy replies bag k time (.ok (m, owners)) ∧ time ≤ deadline ∧
      result.outcome = .ok () ∧ ∃ d : Delivery, d.mailbox = m ∧
        d.events = owners.map (f.newEvent k bag) ∧
        result.feed.store = f.store.insert d.mailbox (d.events.map Row.ofEvent) ∧
        f.store.receive (f.service.create (f.amid replies) context tag bag).trace.deliveries =
          result.feed.store) ∨
    (∃ e, NotCreated policy kinds replies deadline tag bag e ∧ result.outcome = .error e ∧
      result.feed.store = f.store ∧
      f.store.receive (f.service.create (f.amid replies) context tag bag).trace.deliveries =
        result.feed.store) := by
  intro result deadline
  have herror : ∀ {time e}, (f.service.create (f.amid replies) context tag bag).Ends time
      (.error e) [] → NotCreated policy kinds replies deadline tag bag e → ∃ e,
        NotCreated policy kinds replies deadline tag bag e ∧ result.outcome = .error e ∧
        result.feed.store = f.store ∧ f.store.receive
          (f.service.create (f.amid replies) context tag bag).trace.deliveries =
            result.feed.store := by
    intro time e hends hnot
    obtain ⟨houtcome, hstore, hreceive⟩ := concludeDelivery_of_error (f := f) hends
    exact ⟨e, hnot, houtcome, hstore, hreceive.trans hstore.symm⟩
  -- no handler, a handler that ends in time, or one that is too late
  rcases create_course hkinds replies context tag bag with
    ⟨hends, hnone⟩ | ⟨k, hk, htag, time, r, hdecided, ⟨hle, hdoes⟩ | ⟨hlt, hends⟩⟩
  · exact .inr (herror hends (.noHandler hnone))
  · cases r with
    | error failure => exact .inr (herror hdoes (.failed hk htag hdecided hle))
    | ok p =>
      obtain ⟨d, hm, he, hends⟩ := hdoes
      obtain ⟨houtcome, hstore, hreceive⟩ := concludeDelivery_of_ok (f := f) hends
      exact .inl ⟨k, hk, htag, time, p.1, p.2, hdecided, hle, houtcome, d, hm, he, hstore,
        hreceive.trans hstore.symm⟩
  · exact .inr (herror hends (.late hk htag hdecided hlt))

/-- **Creating an event is all or nothing**, whatever the graph replies and however late. Either the
call succeeds, and then exactly the rows that were decided upon stand behind those that were there;
or it fails for one of the known reasons, and then no row is changed. What is stored are in both cases
the deliveries that were made before the call ended. -/
theorem create_all_or_nothing
    (hkinds : f.service.registry.handlers.Perm (kinds.map (Handler.ofKind policy)))
    (replies : (q : Query) → Reply q.Answer) (context : CallContext) (tag : String) (bag : Bag) :
    let result := f.createAmid replies context tag bag
    let deadline := f.service.writeDeadline context
    ((∃ k ∈ kinds, tag = k.tag ∧ ∃ time m owners,
        Decided policy replies bag k time (.ok (m, owners)) ∧ time ≤ deadline ∧
        result.outcome = .ok () ∧ ∃ rows, f.Written k bag owners rows ∧
          ∀ m', result.feed.store.rows m' =
            if m' = m then f.store.rows m' ++ rows else f.store.rows m') ∨
      (∃ e, NotCreated policy kinds replies deadline tag bag e ∧ result.outcome = .error e ∧
        result.feed.store = f.store)) ∧
    f.store.receive (f.service.create (f.amid replies) context tag bag).trace.deliveries =
      result.feed.store ∧
    ((∀ q failure, (replies q).answer = .error failure →
        ∃ collaborator reason, failure = .error (.unavailable collaborator reason)) →
      ∀ e, result.outcome = .error e → ∃ error, e = .error error ∧
        error.kind ∈ [ErrorKind.handlerNotFound, .missingOrInvalidField, .collaboratorUnavailable,
          .timeout]) := by
  intro result deadline
  rcases createAmid_cases hkinds replies context tag bag with
    ⟨k, hk, htag, time, m, owners, hdecided, hle, houtcome, d, rfl, he, hstore, hreceive⟩ |
    ⟨e, hnot, houtcome, hstore, hreceive⟩
  · refine ⟨.inl ⟨k, hk, htag, time, _, owners, hdecided, hle, houtcome, _,
      f.written_numbered k bag owners, fun m' => ?_⟩, hreceive, fun _ e he => ?_⟩
    · rw [show result.feed.store = _ from hstore, he, Store.insert_eq]
      exact Store.rows_append _ _ _ _
    · rw [show result.outcome = _ from houtcome] at he
      cases he
  · refine ⟨.inr ⟨e, hnot, houtcome, hstore⟩, hreceive, fun hreplies e' he' => ?_⟩
    obtain rfl := Except.error.inj (houtcome.symm.trans he')
    exact hnot.kind hreplies

/-- A graph that is slow and wrong: it counts fewer followers than nobody, and lists one of them
twice. -/
def wrongReplies : (q : Query) → Reply q.Answer
  | .followerCount _ => ⟨100, .ok (-2)⟩
  | .followers _ _ => ⟨50, .ok [9, 9, 8]⟩
  | .followees _ _ => ⟨0, .ok []⟩
  | .pushed _ _ _ _ => ⟨0, .ok []⟩
  | .kept _ _ _ _ => ⟨0, .ok []⟩

/-- A feed with the handlers of articles and likes, and with a row of an older program. -/
def halfFeed : Feed where
  now := ⟨5, 1999999⟩
  graph := .empty
  store := ⟨[⟨1, 2, "poke_event", "?", -1⟩], [], 1⟩
  service := ⟨⟨[.like, .article {}], by decide⟩, {}⟩
  disturbances := []
  journal := []

/-- An article of the author 7, with a deadline. -/
def wronglyReplied (deadline : ℕ) : Result (Failure ServiceError) Unit :=
  halfFeed.createAmid wrongReplies { timeout := some deadline } "article_event"
    (.ofList [("uid", " 7 ")])

theorem create_all_or_nothing_wrongReplies :
    halfFeed.service.registry.handlers.Perm ([.article, .like].map (Handler.ofKind {})) ∧
    (wronglyReplied 150).outcome = .ok () ∧
    (wronglyReplied 150).feed.store.inbox.map Row.uid = [2, 9, 9, 8] ∧
    (wronglyReplied 149).outcome = .error (.error (.timeout "create_event" 149)) ∧
    (wronglyReplied 149).feed.store = halfFeed.store := by
  have hkinds : halfFeed.service.registry.handlers.Perm
      ([.article, .like].map (Handler.ofKind {})) := .swap _ _ _
  have hall := fun deadline => create_all_or_nothing hkinds wrongReplies
    { timeout := some deadline } "article_event" (.ofList [("uid", " 7 ")])
  have hok : (wronglyReplied 150).outcome = .ok () := by rfl
  have hlate : (wronglyReplied 149).outcome =
    .error (.error (.timeout "create_event" 149)) := by rfl
  refine ⟨hkinds, hok, ?_, hlate, ?_⟩
  · obtain ⟨⟨k, -, hk, time, m, owners, hdecided, -, -, rows, hrows, hstore⟩ |
      ⟨e, -, herror, -⟩, -⟩ := hall 150
    · obtain rfl : Kind.article = k := Kind.tag_injective hk
      cases hdecided with
      | told other field => exact absurd rfl other
      | kept field counted many =>
        obtain rfl := Except.ok.inj counted
        exact absurd many (show ¬(4 : ℤ) < -2 by decide)
      | pushed field counted few listed =>
        obtain rfl := Except.ok.inj listed
        rw [show (wronglyReplied 150).feed.store.inbox = _ from hstore .inbox, if_pos rfl,
          List.map_append, hrows.owners]
        rfl
    · cases hok.symm.trans herror
  · obtain ⟨⟨k, -, -, time, m, owners, -, -, houtcome, -⟩ | ⟨e, -, -, hstore⟩, -⟩ := hall 149
    · cases houtcome.symm.trans hlate
    · exact hstore

end Feed

end ActivityFeed
