import ActivityFeed.Proofs.Run

/-!
# From creating an event to reading it

What a user sees is determined by the history of the feed, and this file says how, without a word
about mailboxes, scans and merges. The history is the list of the events whose creation succeeded,
each with the moment and the graph of that moment (`ActivityFeed.Posting`). A user sees such an
event in one of two ways (`ActivityFeed.Posting.seenBy`):

* it was pushed to the user, as the one concerned or as a follower of its author, back then;
* it is an article that was kept because its author had many followers back then, and the author is
  among the first whom the user follows now.

`ActivityFeed.Feed.timeline_of_run` says that the pages of a user show these events and no others,
each once, and in the order of their times and numbers. What carries the proof is that the rows that
a user sees are at any time those of the history (`ActivityFeed.Feed.visibleEvents_run_perm`). So
what was stored before a run is seen after it as before
(`ActivityFeed.Feed.mem_visibleEvents_run_iff`).
-/

namespace ActivityFeed

/-- **A posting**: an event whose creation succeeded, with what was known at that moment. -/
structure Posting where
  /-- The kind of event. -/
  kind : Kind
  /-- Its bag. -/
  bag : Bag
  /-- When it was created. -/
  moment : Instant
  /-- Who followed whom at that moment. -/
  graph : Graph
  /-- The last number that had been given out. -/
  issued : ℕ

namespace Posting

variable (policy : FanoutPolicy) (followees : List ℤ) (viewer : ℤ) (p : Posting)

/-- The user named by a field of the bag. -/
def user (key : String) : Option ℤ := (p.bag.int64 key).toOption

/-- The event as it is read again: its time is the beginning of its millisecond. -/
def event (id : ℕ) (uid : ℤ) : FeedEvent :=
  ⟨id, uid, p.kind.tag, .ofMillis p.moment.millis, p.bag⟩

/-- The users to whom the event was pushed. -/
def recipients : List ℤ :=
  match p.kind with
  | .like => (p.user "liked").toList
  | .follow => (p.user "followee").toList
  | .article => (p.user "uid").toList.flatMap fun author =>
    if policy.pulls (p.graph.followerCount author) then [] else p.graph.byFollowee.members author

/-- The author who keeps the event, if it is an article that was not pushed. -/
def keeper : Option ℤ :=
  match p.kind with
  | .article => (p.user "uid").filter fun author => policy.pulls (p.graph.followerCount author)
  | _ => none

/-- **What a user sees of the event** who follows the given users. -/
def seenBy : Option FeedEvent :=
  if viewer ∈ p.recipients policy then
    some (p.event (p.issued + 1 + (p.recipients policy).idxOf viewer) viewer)
  else ((p.keeper policy).filter (followees.contains ·)).map (p.event (p.issued + 1))

variable {policy p}

/-- Nobody gets an event twice. -/
theorem nodup_recipients (h : p.graph.Ordered) : (p.recipients policy).Nodup := by
  have hone : ∀ key, (p.user key).toList.Nodup := fun key => by
    cases p.user key with
    | none => exact .nil
    | some uid => exact List.nodup_singleton uid
  unfold recipients
  split
  · exact hone _
  · exact hone _
  · cases p.user "uid" with
    | none => exact .nil
    | some author =>
      rw [Option.toList_some, List.flatMap_singleton]
      split
      · exact .nil
      · exact Index.members_nodup h.byFollowee author

variable {followees viewer}

/-- What is seen of a posting has a number that was not given out before. -/
theorem lt_id_of_seenBy {e : FeedEvent} (h : p.seenBy policy followees viewer = some e) :
    (p.issued : ℤ) < e.id := by
  unfold seenBy at h
  split at h
  · obtain rfl := Option.some.inj h
    change (p.issued : ℤ) < ((p.issued + 1 + _ : ℕ) : ℤ)
    omega
  · obtain ⟨author, -, rfl⟩ := Option.map_eq_some_iff.mp h
    change (p.issued : ℤ) < ((p.issued + 1 : ℕ) : ℤ)
    omega

end Posting

namespace Feed

/-- The posting of an event that is created now. -/
def posting (f : Feed) (k : Kind) (bag : Bag) : Posting := ⟨k, bag, f.now, f.graph, f.store.issued⟩

/-- The posting that an action makes, if it creates an event with success. -/
def posted (f : Feed) : Action → Option Posting
  | .create context tag bag =>
    match (f.create context tag bag).outcome, Kind.ofTag? tag with
    | .ok (), some k => some (f.posting k bag)
    | _, _ => none
  | _ => none

/-- **The history of a run**: the postings of its actions. -/
def postings (f : Feed) : List Action → List Posting
  | [] => []
  | a :: actions => (f.posted a).toList ++ (f.act a).postings actions

variable {f : Feed} {policy : FanoutPolicy} {k : Kind} {bag : Bag} {followees : List ℤ}
  {viewer : ℤ}

/-! ### One delivery -/

/-- **Where a planned delivery goes**: to the inboxes of the recipients, or to the outbox of the
author who keeps it. -/
theorem plan_cases {d : Delivery} (h : f.plan policy k bag = .ok d) :
    (d = .inboxes (((f.posting k bag).recipients policy).map (f.newEvent k bag)) ∧
      (f.posting k bag).keeper policy = none) ∨
    ∃ author, d = .outbox (f.newEvent k bag author) ∧
      (f.posting k bag).recipients policy = [] ∧
      (f.posting k bag).keeper policy = some author ∧ k = .article := by
  cases k with
  | like =>
    obtain ⟨uid, huid, rfl⟩ := except_map_eq_ok.mp h
    simp [Posting.recipients, Posting.keeper, Posting.user, posting, huid, Except.toOption]
  | follow =>
    obtain ⟨uid, huid, rfl⟩ := except_map_eq_ok.mp h
    simp [Posting.recipients, Posting.keeper, Posting.user, posting, huid, Except.toOption]
  | article =>
    obtain ⟨author, hauthor, rfl⟩ := except_map_eq_ok.mp h
    by_cases hpulls : policy.pulls (f.graph.followerCount author) = true
    · refine Or.inr ⟨author, if_pos hpulls, ?_⟩
      simp [Posting.recipients, Posting.keeper, Posting.user, posting, hauthor, Except.toOption,
        hpulls]
    · refine Or.inl ⟨(if_neg hpulls).trans ?_, ?_⟩ <;>
      simp [Posting.recipients, Posting.keeper, Posting.user, posting, hauthor, Except.toOption,
        hpulls]

/-- What is pushed to a user is for that user's eyes. -/
theorem shows_newEvent_inbox (uid : ℤ) :
    Store.shows Kind.all followees viewer .inbox (f.newEvent k bag uid) = (uid == viewer) := by
  have hkind : (Kind.all.map Kind.tag).contains k.tag = true := by cases k <;> decide
  exact (congrArg ((uid == viewer) && ·) hkind).trans (Bool.and_true _)

/-- An article that is kept by its author is for those who follow the author. -/
theorem shows_newEvent_outbox (author : ℤ) :
    Store.shows Kind.all followees viewer .outbox (f.newEvent .article bag author) =
      followees.contains author := rfl

/-- What is pushed to different users, and one of them sees. -/
theorem filter_shows_stored {uids : List ℤ} (h : uids.Nodup) (n : ℕ) :
    (Store.stored n (uids.map (f.newEvent k bag))).filter
        (Store.shows Kind.all followees viewer .inbox) =
      if viewer ∈ uids then
        [(f.posting k bag).event (n + 1 + uids.idxOf viewer) viewer]
      else [] := by
  induction uids generalizing n with
  | nil => rfl
  | cons uid uids ih =>
    obtain ⟨hnot, huids⟩ := List.nodup_cons.mp h
    rw [List.map_cons, Store.stored, List.filter_cons, Store.shows_stored, shows_newEvent_inbox,
      ih huids]
    by_cases heq : uid = viewer
    · subst heq
      rw [if_pos (beq_self_eq_true uid), if_neg hnot, if_pos List.mem_cons_self,
        List.idxOf_cons_self]
      rfl
    · -- the numbers of the others start one further on
      have hplace : n + 1 + (uids.idxOf viewer).succ = n + 1 + 1 + uids.idxOf viewer := by omega
      rw [if_neg (by simpa using heq), List.idxOf_cons_ne _ heq, hplace]
      simp only [List.mem_cons, Ne.symm heq, false_or]

/-- **What a user sees of a delivery is what the posting says.** -/
theorem filter_shows_delivery (hg : f.graph.Ordered) {d : Delivery}
    (h : f.plan policy k bag = .ok d) :
    (Store.stored f.store.issued d.events).filter
        (Store.shows Kind.all followees viewer d.mailbox) =
      ((f.posting k bag).seenBy policy followees viewer).toList := by
  rcases plan_cases h with ⟨rfl, hkeeper⟩ | ⟨author, rfl, hrecipients, hkeeper, rfl⟩
  · -- pushed: the viewer sees it as one of the recipients, or not at all
    rw [Posting.seenBy, hkeeper]
    have hnodup : ((f.posting k bag).recipients policy).Nodup := Posting.nodup_recipients hg
    refine (filter_shows_stored hnodup _).trans ?_
    split <;> rfl
  · -- kept: the viewer sees it as a follower of the author, or not at all
    rw [Posting.seenBy, hrecipients, hkeeper, if_neg List.not_mem_nil]
    change [(f.newEvent .article bag author).stored (f.store.issued + 1)].filter
      (Store.shows Kind.all followees viewer .outbox) = _
    rw [List.filter_singleton, Store.shows_stored, shows_newEvent_outbox, Option.filter_some]
    cases followees.contains author <;> rfl

/-! ### A whole run -/

/-- **An action adds to what a user sees what its posting says.** -/
theorem visibleEvents_act_perm (h : f.Regular policy Kind.all) (a : Action) :
    ((f.act a).store.visibleEvents Kind.all followees viewer).Perm
      (f.store.visibleEvents Kind.all followees viewer ++
        (f.posted a).toList.filterMap (·.seenBy policy followees viewer)) := by
  cases a with
  | create context tag bag =>
    -- only a delivery changes what is stored, and it does so exactly if there is a posting
    change ((f.create context tag bag).feed.store.visibleEvents _ _ _).Perm _
    rcases create_cases h.handlers context tag bag with
      ⟨e, hout, hstore⟩ | ⟨k, -, d, htag, hplan, hout, hstore⟩
    · rw [hstore, posted, hout]
      exact .of_eq (List.append_nil _).symm
    · rw [hstore, posted, hout, htag]
      refine (Store.visibleEvents_insert_perm _ _ (h.ordinary_of_plan hplan)).trans
        (.of_eq (congrArg _ ((filter_shows_delivery h.graph hplan).trans ?_)))
      cases hseen : (f.posting k bag).seenBy policy followees viewer <;> simp [hseen]
  | _ => exact .of_eq (List.append_nil _).symm

/-- **After a run, a user sees what the history says**, and nothing else. -/
theorem visibleEvents_run_perm (followees : List ℤ) (viewer : ℤ)
    (h : f.Regular policy Kind.all) {actions : List Action} (ha : ∀ a ∈ actions, a.Ordinary) :
    ((f.run actions).store.visibleEvents Kind.all followees viewer).Perm
      (f.store.visibleEvents Kind.all followees viewer ++
        (f.postings actions).filterMap (·.seenBy policy followees viewer)) := by
  induction actions generalizing f with
  | nil => exact .of_eq (List.append_nil _).symm
  | cons a actions ih =>
    have hfirst := h.act (ha a List.mem_cons_self)
    refine (ih hfirst fun b hb => ha b (List.mem_cons_of_mem a hb)).trans ?_
    rw [postings, List.filterMap_append, ← List.append_assoc]
    exact (visibleEvents_act_perm h a).append_right _

/-- Numbers are only given out. -/
theorem issued_le_act (h : f.Regular policy Kind.all) (a : Action) :
    f.store.issued ≤ (f.act a).store.issued := by
  cases a with
  | create context tag bag =>
    change f.store.issued ≤ (f.create context tag bag).feed.store.issued
    rcases create_cases h.handlers context tag bag with
      ⟨_, -, hstore⟩ | ⟨k, -, d, -, -, -, hstore⟩
    · rw [hstore]
    · rw [hstore, Store.insert_eq]
      exact Nat.le_add_right _ _
  | _ => exact Nat.le_refl _

/-- The postings of a run begin at the last number that was given out before it. -/
theorem issued_le_of_mem_postings (h : f.Regular policy Kind.all) {actions : List Action}
    (ha : ∀ a ∈ actions, a.Ordinary) {p : Posting} (hp : p ∈ f.postings actions) :
    f.store.issued ≤ p.issued := by
  induction actions generalizing f with
  | nil => cases hp
  | cons a actions ih =>
    rcases List.mem_append.mp hp with hp | hp
    · cases a with
      | create context tag bag =>
        rw [posted] at hp
        split at hp
        · obtain rfl := List.mem_singleton.mp hp
          exact Nat.le_refl _
        · cases hp
      | _ => cases hp
    · exact (issued_le_act h a).trans
        (ih (h.act (ha a List.mem_cons_self)) (fun b hb => ha b (List.mem_cons_of_mem a hb)) hp)

/-- **What was stored before a run is seen after it as before**, and its number tells that it
was. -/
theorem mem_visibleEvents_run_iff (h : f.Regular policy Kind.all) {actions : List Action}
    (ha : ∀ a ∈ actions, a.Ordinary) {e : FeedEvent} (hid : e.id ≤ (f.store.issued : ℤ)) :
    e ∈ (f.run actions).store.visibleEvents Kind.all followees viewer ↔
      e ∈ f.store.visibleEvents Kind.all followees viewer := by
  rw [(visibleEvents_run_perm followees viewer h ha).mem_iff, List.mem_append]
  refine or_iff_left fun hnew => ?_
  obtain ⟨p, hp, hseen⟩ := List.mem_filterMap.mp hnew
  have hissued := issued_le_of_mem_postings h ha hp
  have hlt := Posting.lt_id_of_seenBy hseen
  omega

section Pages

variable {kinds : List Kind} {uid : ℤ} {before : Option Instant} {limit : ℕ}

/-- **The pages of a regular feed**, be the instant given or the present. -/
theorem Regular.outcome_page (h : f.Regular policy kinds) (context : CallContext) (uid : ℤ)
    (hleap : ¬(before.getD f.now).InLeapSecond)
    (hlimit : 1 ≤ limit ∧ limit ≤ f.service.settings.maxPageSize)
    (htime : 0 < context.timeout.getD f.service.settings.readTimeout) :
    (f.timeline context ⟨uid, before, some limit⟩).outcome =
      .ok ⟨(f.visible policy kinds uid (before.getD f.now)).take limit⟩ :=
  -- leaving out the instant of a request is asking for the present
  (outcome_timeline f context ⟨uid, before, some limit⟩).trans
    (Feed.outcome_page context uid h.handlers h.store.toReadable hleap hlimit h.calm htime)

/-- Where nothing is stored for a user before an instant, the page is empty. -/
theorem page_eq_nil (h : f.Regular policy kinds)
    (hnone : eventsBefore (before.getD f.now)
      (f.store.visibleRows kinds (f.graph.followees uid policy.followeeLimit) uid) = [])
    (hleap : ¬(before.getD f.now).InLeapSecond)
    (hlimit : 1 ≤ limit ∧ limit ≤ f.service.settings.maxPageSize)
    (htime : 0 < f.service.settings.readTimeout) :
    (f.timeline {} ⟨uid, before, some limit⟩).outcome = .ok ⟨[]⟩ := by
  have hvisible : f.visible policy kinds uid (before.getD f.now) = [] := by
    rw [visible, Store.timeline, hnone]
    exact List.mergeSort_nil
  rw [h.outcome_page {} uid hleap hlimit htime, hvisible, List.take_nil]

/-- What a user sees before an instant are the earlier ones of the events that the user sees. -/
theorem mem_visible_iff (hs : f.store.Readable) {before : Instant} {e : FeedEvent} :
    e ∈ f.visible policy kinds uid before ↔
      e ∈ f.store.visibleEvents kinds (f.graph.followees uid policy.followeeLimit) uid ∧
        e.createdAt < before :=
  ((Store.isTimeline_timeline hs before).mem_iff e).trans (and_congr_left' List.mem_map.symm)

end Pages

/-- **A page shows the history.** After any run from a feed in which nothing had happened, the page
of a user is the beginning of one list. This list holds what the user sees of the postings of the
run, as far as it lies before the cursor, each once, and it descends strictly in the order of times
and numbers. -/
theorem timeline_of_run (policy : FanoutPolicy) (settings : Settings) {now : Instant}
    (hnow : now.Ordinary) {actions : List Action} (hactions : ∀ a ∈ actions, a.Ordinary)
    (context : CallContext) (viewer : ℤ) {before : Instant} (hbefore : ¬before.InLeapSecond)
    {limit : ℕ} (hlimit : 1 ≤ limit ∧ limit ≤ settings.maxPageSize)
    (htime : 0 < context.timeout.getD settings.readTimeout) :
    let first := start ⟨.standard policy, settings⟩ now
    let f := first.run actions
    let seen := (first.postings actions).filterMap
      (·.seenBy policy (f.graph.followees viewer policy.followeeLimit) viewer)
    ∃ events : List FeedEvent,
      events.Perm (seen.filter fun e => decide (e.createdAt < before)) ∧
      events.Pairwise FeedEvent.Newer ∧
      (f.timeline context ⟨viewer, some before, some limit⟩).outcome =
        .ok ⟨events.take limit⟩ := by
  intro first f seen
  have hregular : f.Regular policy Kind.all := (regular_start policy settings hnow).run hactions
  have hservice : f.service = first.service := service_run first actions
  have hseen : (f.store.visibleEvents Kind.all (f.graph.followees viewer policy.followeeLimit)
      viewer).Perm seen :=
    visibleEvents_run_perm _ viewer (regular_start policy settings hnow) hactions
  refine ⟨f.visible policy Kind.all viewer before,
    (newestFirst_perm _).trans (hseen.filter _),
    (Store.isTimeline_timeline hregular.store.toReadable before).sorted, ?_⟩
  rw [outcome_timeline]
  refine outcome_page context viewer hregular.handlers hregular.store.toReadable hbefore ?_
    hregular.calm ?_
  · exact hservice ▸ hlimit
  · exact hservice ▸ htime

/-- A run in which the author 1 comes above the threshold and falls below it again, while the clock
goes back. The last event fails, for it names nobody. -/
def eventfulRun : List Action :=
  [.follow 2 1, .create {} "article_event" (.ofList [("uid", "1"), ("title", "\"a\"")]),
    .follow 3 1, .setClock ⟨0, 5000000⟩, .create {} "article_event" (.ofList [("uid", "1")]),
    .unfollow 3 1, .setClock ⟨-1, 0⟩, .create {} "article_event" (.ofList [("uid", " 1 ")]),
    .create {} "like_event" (.ofList [("liked", "2")]),
    .create {} "like_event" (.ofList [("liked", "")])]

/-- What the user 2 sees of it at the end. -/
def eventfulTimeline : List FeedEvent :=
  [⟨2, 1, "article_event", ⟨0, 5000000⟩, .ofList [("uid", "1")]⟩,
    ⟨1, 2, "article_event", ⟨0, 1000000⟩, .ofList [("uid", "1"), ("title", "\"a\"")]⟩,
    ⟨4, 2, "like_event", ⟨-1, 0⟩, .ofList [("liked", "2")]⟩,
    ⟨3, 2, "article_event", ⟨-1, 0⟩, .ofList [("uid", " 1 ")]⟩]

theorem timeline_of_run_eventful :
    (((start ⟨.standard ⟨1, 1, 1⟩, {}⟩ ⟨0, 1999999⟩).run eventfulRun).timeline {}
      ⟨2, some ⟨0, 6000000⟩, some 3⟩).outcome = .ok ⟨eventfulTimeline.take 3⟩ := by
  have hnow : (⟨0, 1999999⟩ : Instant).Ordinary := by decide
  have hactions : ∀ a ∈ eventfulRun, a.Ordinary := by decide
  have hbefore : ¬(⟨0, 6000000⟩ : Instant).InLeapSecond := by decide
  have hlimit : 1 ≤ 3 ∧ 3 ≤ ({} : Settings).maxPageSize := by decide
  obtain ⟨events, hperm, hsorted, hpage⟩ :=
    timeline_of_run ⟨1, 1, 1⟩ {} hnow hactions {} 2 hbefore hlimit (by decide)
  have hseen : (((start ⟨.standard ⟨1, 1, 1⟩, {}⟩ ⟨0, 1999999⟩).postings eventfulRun).filterMap
      (·.seenBy ⟨1, 1, 1⟩ [1] 2)).filter (fun e => decide (e.createdAt < ⟨0, 6000000⟩)) |>.Perm
      eventfulTimeline := by decide +kernel
  have hevents : events = eventfulTimeline :=
    hsorted.eq_of_mem_iff (by decide : eventfulTimeline.Pairwise FeedEvent.Newer)
      fun _ => (hperm.trans hseen).mem_iff
  rw [hpage, hevents]

end Feed

end ActivityFeed
