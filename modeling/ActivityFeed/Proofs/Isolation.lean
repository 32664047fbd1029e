import ActivityFeed.Proofs.Atomicity
import ActivityFeed.Proofs.Delivery
import ActivityFeed.Proofs.Joining

/-!
# What strangers do not see

Creating an event adds rows to one mailbox, for the users whom it concerns and with the time of the
clock, and it does nothing else (`ActivityFeed.Feed.grew_create`). A reader asks the store for the
rows of some owners before a cursor. Where no new row is one of those, all answers are as before,
and with them everything that the handlers do: what they find, how long they take for it and what
they report (`ActivityFeed.Feed.Grew.find_eq`). So the whole call is as before
(`ActivityFeed.Feed.Grew.timeline_eq`).

This has nothing to do with what is stored. Numbers may stand twice, and times may lie beyond the
calendar. Only if handlers take the same time, and may end in one order now and in another one
later, do the numbers matter, for a page is then the same only if the order of showing tells all
events apart (`ActivityFeed.Feed.nodup_keys_found`).

For a user whom the event does not concern this is `ActivityFeed.Feed.timeline_of_stranger`: the
event does not leak onto the page, and it pushes nothing off it.
-/

namespace ActivityFeed

/-! ### Answers that look past rows -/

/-- **A reader looks past a row** when asking before an instant: the row is not earlier, or it
belongs to somebody whose mailbox is not looked into. -/
def LooksPast (followees : List ℤ) (uid : ℤ) (before : Instant) : Mailbox → Row → Prop
  | .inbox, r => before.cursorMillis ≤ r.ctime ∨ r.uid ≠ uid
  | .outbox, r => before.cursorMillis ≤ r.ctime ∨ r.uid ∉ followees

namespace Store

variable {s s' : Store} {m : Mailbox} {rows : List Row} {owns : ℤ → Bool} {before : Instant}

/-- Rows that nobody asked for do not change the answer. -/
theorem scan_eq_of_append (h : s'.rows m = s.rows m ++ rows)
    (hpast : ∀ r ∈ rows, before.cursorMillis ≤ r.ctime ∨ owns r.uid = false) (tag : String)
    (limit : ℕ) : s'.scan m tag owns before limit = s.scan m tag owns before limit := by
  have hnone : rows.filter (fun r =>
      r.tag == tag && decide (r.ctime < before.cursorMillis) && owns r.uid) = [] := by
    refine List.filter_eq_nil_iff.mpr fun r hr hwanted => ?_
    simp only [Bool.and_eq_true, decide_eq_true_iff] at hwanted
    rcases hpast r hr with hle | hother
    · exact absurd hwanted.1.2 (Int.not_lt.mpr hle)
    · rw [hother] at hwanted
      exact absurd hwanted.2 Bool.false_ne_true
  rw [scan, scan, h, List.filter_append, hnone, List.append_nil]

end Store

/-! ### Handlers that find the same -/

namespace Service

variable {s : Service} {c c' : Collaborators} {r : Request}

/-- What the handlers do is all that the reader depends on. -/
theorem timeline_congr (hq : s.query c'.now r = s.query c.now r)
    (hfind : ∀ h ∈ s.registry.handlers, s.find c' r h = s.find c r h) (context : CallContext) :
    s.timeline c' context r = s.timeline c context r := by
  have hpart : s.registry.handlers.map (part c' (s.query c.now r)) =
      s.registry.handlers.map (part c (s.query c.now r)) := by
    refine List.map_congr_left fun h hh => ?_
    have hsame := hfind h hh
    rw [find, find, hq] at hsame
    rw [part, part, hsame]
  have hparts : s.parts c' (s.readDeadline context) (s.query c.now r) =
      s.parts c (s.readDeadline context) (s.query c.now r) := by
    rw [parts, parts, hpart]
  rw [timeline_eq, timeline_eq, hq, hparts]

/-- **The order of the answers does not matter** to the page, where no two events that are found
have the time and the number in common. -/
theorem timelineIn_eq_ok_of_perm {order order' : List Handler}
    (hq : s.query c'.now r = s.query c.now r)
    (hfind : ∀ h ∈ order, s.find c' r h = s.find c r h) (hperm : order.Perm order')
    (hkeys : ∀ lists : List (List FeedEvent),
      order.map (fun h => (s.find c r h).outcome) = lists.map .ok →
        (lists.flatten.map FeedEvent.key).Nodup)
    {context : CallContext} {page : Page} (h : s.timelineIn c context r order = .ok page) :
    s.timelineIn c' context r order' = .ok page := by
  obtain ⟨htime, lists, hlists, rfl⟩ := timelineIn_eq_ok_iff.mp h
  -- the answers in the other order are the same answers
  have hanswers : (lists.map (Except.ok (ε := Failure FeedError))).Perm
      (order'.map fun h => (s.find c' r h).outcome) := by
    rw [← hlists]
    refine (List.Perm.of_eq (List.map_congr_left fun h hh => ?_)).trans (hperm.map _)
    rw [hfind h hh]
  obtain ⟨lists', hlists', hp⟩ := Timed.exists_perm_of_perm_map hanswers.symm
  refine timelineIn_eq_ok_iff.mpr ⟨fun h hh => ?_, lists', hlists', ?_⟩
  · rw [hfind h (hperm.mem_iff.mpr hh)]
    exact htime h (hperm.mem_iff.mpr hh)
  · rw [hq, mergeTimeline_eq_of_perm hp.symm (hkeys lists hlists)]

end Service

namespace Feed

/-! ### A feed that has grown -/

/-- **The feed has grown** to another one: rows of some sort were appended to its mailboxes. Its
clock may have been set, and there may be new calls in its journal. -/
structure Grew (new : Mailbox → Row → Prop) (f g : Feed) : Prop where
  /-- The service is the same. -/
  service : g.service = f.service
  /-- The graph is the same. -/
  graph : g.graph = f.graph
  /-- The same rules disturb calls. -/
  disturbances : g.disturbances = f.disturbances
  /-- Each mailbox begins with what stood in it. -/
  rows : ∀ m, ∃ rows, g.store.rows m = f.store.rows m ++ rows ∧ ∀ r ∈ rows, new m r

variable {f g : Feed} {new : Mailbox → Row → Prop} {policy : FanoutPolicy} {kinds : List Kind}
  {uid : ℤ} {before : Instant} {limit : ℕ} {context : CallContext} {tag : String} {bag : Bag}

/-- A question is answered in the same way if the graph and the store have the same answer. -/
theorem ask_eq {q : Query} (hd : g.disturbances = f.disturbances)
    (h : answering g.graph g.store q = answering f.graph f.store q) :
    g.collaborators.ask q = f.collaborators.ask q := by
  change Disturbance.apply _ _ _ = Disturbance.apply _ _ _
  rw [hd, h]

namespace Grew

theorem refl (new : Mailbox → Row → Prop) (f : Feed) : f.Grew new f :=
  ⟨rfl, rfl, rfl, fun _ => ⟨[], (List.append_nil _).symm, fun _ h => by cases h⟩⟩

theorem trans {e : Feed} (h : e.Grew new f) (h' : f.Grew new g) : e.Grew new g where
  service := h'.service.trans h.service
  graph := h'.graph.trans h.graph
  disturbances := h'.disturbances.trans h.disturbances
  rows m := by
    obtain ⟨rows, hrows, hnew⟩ := h.rows m
    obtain ⟨rows', hrows', hnew'⟩ := h'.rows m
    refine ⟨rows ++ rows', by rw [hrows', hrows, List.append_assoc], fun r hr => ?_⟩
    rcases List.mem_append.mp hr with hr | hr
    · exact hnew r hr
    · exact hnew' r hr

theorem mono {new' : Mailbox → Row → Prop} (h : f.Grew new g) (himp : ∀ m r, new m r → new' m r) :
    f.Grew new' g :=
  { h with rows := fun m => (h.rows m).imp fun _ hrows =>
      ⟨hrows.1, fun r hr => himp m r (hrows.2 r hr)⟩ }

variable (h : f.Grew new g)
  (hpast : ∀ m r, new m r → LooksPast (f.graph.followees uid policy.followeeLimit) uid before m r)

include h hpast

/-- What was pushed to the reader is answered as before. -/
theorem ask_pushed (tag : String) (limit : ℕ) :
    g.collaborators.ask (.pushed tag uid before limit) =
      f.collaborators.ask (.pushed tag uid before limit) := by
  obtain ⟨rows, hrows, hnew⟩ := h.rows .inbox
  have hscan : g.store.pushed tag uid before limit = f.store.pushed tag uid before limit := by
    refine Store.scan_eq_of_append hrows (fun r hr => ?_) tag limit
    exact (hpast .inbox r (hnew r hr)).imp_right beq_false_of_ne
  refine ask_eq h.disturbances ?_
  simp only [answering, rowsFor, answer, hscan]

/-- What is kept for the reader is found as before. -/
theorem findKept_eq (limit : ℕ) :
    Handler.Article.findKept policy g.collaborators uid before limit =
      Handler.Article.findKept policy f.collaborators uid before limit := by
  obtain ⟨rows, hrows, hnew⟩ := h.rows .outbox
  have hscan : g.store.kept Kind.article.tag (f.graph.followees uid policy.followeeLimit) before
      limit = f.store.kept Kind.article.tag (f.graph.followees uid policy.followeeLimit) before
        limit := by
    refine Store.scan_eq_of_append hrows (fun r hr => ?_) Kind.article.tag limit
    exact (hpast .outbox r (hnew r hr)).imp_right fun hr => by simpa using hr
  have hfollowees : g.collaborators.ask (.followees uid policy.followeeLimit) =
      f.collaborators.ask (.followees uid policy.followeeLimit) := by
    refine ask_eq h.disturbances ?_
    rw [h.graph]
    rfl
  have hkept : g.collaborators.ask (.kept Kind.article.tag
      (f.graph.followees uid policy.followeeLimit) before limit) =
        f.collaborators.ask (.kept Kind.article.tag
          (f.graph.followees uid policy.followeeLimit) before limit) := by
    refine ask_eq h.disturbances ?_
    simp only [answering, rowsFor, answer, hscan]
  unfold Handler.Article.findKept
  rw [hfollowees]
  -- the outboxes that are looked into are those of the followees in the graph
  refine Timed.bind_congr fun followees hanswer => ?_
  obtain rfl : followees = f.graph.followees uid policy.followeeLimit := eq_answer_of_ask hanswer
  rw [hkept]

/-- **A handler does the same as before**, for a reader who looks past all new rows. -/
theorem find_eq (k : Kind) (limit : ℕ) :
    (Handler.ofKind policy k).find g.collaborators uid before limit =
      (Handler.ofKind policy k).find f.collaborators uid before limit := by
  cases k with
  | article =>
    change Handler.Article.find policy g.collaborators uid before limit =
      Handler.Article.find policy f.collaborators uid before limit
    rw [Handler.Article.find, Handler.Article.find, h.ask_pushed hpast, h.findKept_eq hpast]
  | follow => exact h.ask_pushed hpast _ _
  | like => exact h.ask_pushed hpast _ _

end Grew

/-- No two events that the handlers find have the number in common, if no two rows have. -/
theorem nodup_keys_found
    (hkinds : f.service.registry.handlers.Perm (kinds.map (Handler.ofKind policy)))
    (hids : ((f.store.inbox ++ f.store.outbox).map Row.id).Nodup) {r : Service.Request}
    {order : List Handler} (horder : order.Perm f.service.registry.handlers)
    {lists : List (List FeedEvent)}
    (hlists : order.map (fun h => (f.service.find f.collaborators r h).outcome) = lists.map .ok) :
    (lists.flatten.map FeedEvent.key).Nodup := by
  obtain ⟨kinds', rfl, hp⟩ := Timed.exists_perm_of_perm_map (horder.trans hkinds)
  have hparts : kinds'.map (fun k => (Service.part f.collaborators (f.service.query f.now r)
      (Handler.ofKind policy k)).outcome) = lists.map .ok := by
    rw [← map_mapError_eq_ok_iff (g := Service.partError), List.map_map, List.map_map] at hlists
    rw [← hlists]
    exact List.map_congr_left fun k _ => Service.outcome_part _
  obtain rfl := eq_map_picked_of_part hparts
  -- what is found are visible rows, and these are some of all rows
  obtain ⟨events, hperm, hsub⟩ := flatten_picked_subperm f (nodup_of_handlers hkinds) hp r.uid
    (f.service.query f.now r).before (f.service.query f.now r).limit
  refine nodup_keys_of_nodup_ids (((hperm.map FeedEvent.id).nodup_iff).mp ?_)
  refine List.Nodup.sublist (hsub.map FeedEvent.id) ?_
  rw [List.map_map]
  exact hids.sublist ((List.filter_sublist.trans Store.visibleRows_sublist).map Row.id)

section Requests

variable {r : Service.Request} (h : f.Grew new g)
  (hkinds : f.service.registry.handlers.Perm (kinds.map (Handler.ofKind policy)))
  (hbefore : r.before.getD g.now = r.before.getD f.now)
  (hpast : ∀ m row, new m row → LooksPast (f.graph.followees r.uid policy.followeeLimit) r.uid
    (r.before.getD f.now) m row)

include h hkinds hbefore hpast

/-- The handlers in use do the same as before, for a reader who looks past all new rows. -/
theorem Grew.service_find_eq :
    f.service.query g.now r = f.service.query f.now r ∧
      ∀ handler ∈ f.service.registry.handlers,
        f.service.find g.collaborators r handler = f.service.find f.collaborators r handler := by
  have hq : f.service.query g.now r = f.service.query f.now r := by
    rw [Service.query, Service.query, hbefore]
  refine ⟨hq, fun handler hhandler => ?_⟩
  obtain ⟨k, -, rfl⟩ := List.mem_map.mp (hkinds.mem_iff.mp hhandler)
  rw [Service.find, Service.find, show f.service.query g.collaborators.now r = _ from hq]
  exact h.find_eq hpast k _

/-- **A reader who looks past all new rows reads as before**: the same page or the same error, with
the same reports, and in the same time. -/
theorem Grew.timeline_eq (context : CallContext) :
    g.service.timeline g.collaborators context r = f.service.timeline f.collaborators context r := by
  obtain ⟨hq, hfind⟩ := h.service_find_eq hkinds hbefore hpast
  rw [h.service]
  exact Service.timeline_congr hq hfind context

/-- **Whatever the order in which handlers end**, a reader who looks past all new rows reads the
same page as before, where no two rows had the number in common. -/
theorem Grew.timelineIn_eq_ok_iff (hids : ((f.store.inbox ++ f.store.outbox).map Row.id).Nodup)
    {order order' : List Handler} (horder : f.service.EndingOrder f.collaborators r order)
    (horder' : g.service.EndingOrder g.collaborators r order') (page : Page) :
    g.service.timelineIn g.collaborators context r order' = .ok page ↔
      f.service.timelineIn f.collaborators context r order = .ok page := by
  obtain ⟨hq, hfind⟩ := h.service_find_eq hkinds hbefore hpast
  have horder' : order'.Perm f.service.registry.handlers := h.service ▸ horder'.perm
  rw [h.service]
  constructor
  · refine Service.timelineIn_eq_ok_of_perm hq.symm
      (fun handler hh => (hfind handler (horder'.mem_iff.mp hh)).symm)
      (horder'.trans horder.perm.symm)
      fun lists hlists => nodup_keys_found hkinds hids horder' (r := r) ?_
    rw [← hlists]
    exact List.map_congr_left fun handler hh => by rw [hfind handler (horder'.mem_iff.mp hh)]
  · exact Service.timelineIn_eq_ok_of_perm hq
      (fun handler hh => hfind handler (horder.perm.mem_iff.mp hh))
      (horder.perm.trans horder'.symm) fun lists => nodup_keys_found hkinds hids horder.perm

end Requests

end Feed

/-! ### What creating an event adds -/

/-- **The row is one of the posting's**: it has the time of the moment, and it stands in the inbox
of somebody to whom the event was pushed, or in the outbox of the author who keeps it. -/
def Posting.Adds (policy : FanoutPolicy) (p : Posting) : Mailbox → Row → Prop
  | .inbox, r => r.ctime = p.moment.millis ∧ r.uid ∈ p.recipients policy
  | .outbox, r => r.ctime = p.moment.millis ∧ p.keeper policy = some r.uid

/-- The rows of a posting have the time of its moment. -/
theorem Posting.Adds.ctime_eq {policy : FanoutPolicy} {p : Posting} {m : Mailbox} {r : Row}
    (h : p.Adds policy m r) : r.ctime = p.moment.millis := by
  cases m with
  | inbox => exact h.1
  | outbox => exact h.1

/-- A stranger looks past the rows of a posting: nothing was pushed to the stranger, who does not
look either into the outbox of the author who keeps it. -/
theorem Posting.Adds.looksPast {policy : FanoutPolicy} {p : Posting} {viewer : ℤ}
    {followees : List ℤ} (hrecipient : viewer ∉ p.recipients policy)
    (hkeeper : ∀ author, p.keeper policy = some author → author ∉ followees) (before : Instant)
    {m : Mailbox} {r : Row} (h : p.Adds policy m r) : LooksPast followees viewer before m r := by
  cases m with
  | inbox => exact Or.inr fun huid => hrecipient (huid ▸ h.2)
  | outbox => exact Or.inr (hkeeper r.uid h.2)

namespace Feed

variable {f : Feed} {policy : FanoutPolicy} {kinds : List Kind} {tag : String} {bag : Bag}

/-- The rows that a planned delivery adds are the posting's. -/
theorem adds_of_plan {k : Kind} {d : Delivery} (h : f.plan policy k bag = .ok d) {r : Row}
    (hr : r ∈ Store.numbered f.store.issued (d.events.map Row.ofEvent)) :
    (f.posting k bag).Adds policy d.mailbox r := by
  rcases plan_cases h with ⟨rfl, -⟩ | ⟨author, rfl, -, hkeeper, rfl⟩
  · have hwritten := f.written_numbered k bag ((f.posting k bag).recipients policy)
    exact ⟨(hwritten.event r hr).2.2, hwritten.owners ▸ List.mem_map_of_mem hr⟩
  · have hwritten := f.written_numbered .article bag [author]
    have howner : r.uid ∈ [author] := hwritten.owners ▸ List.mem_map_of_mem hr
    refine ⟨(hwritten.event r hr).2.2, ?_⟩
    rw [List.mem_singleton.mp howner]
    exact hkeeper

/-- **Creating an event adds the rows of its posting**, if it comes to a posting, and it changes
nothing else that a reader could notice. -/
theorem grew_create
    (hkinds : f.service.registry.handlers.Perm (kinds.map (Handler.ofKind policy)))
    (context : CallContext) (tag : String) (bag : Bag) :
    f.Grew (fun m r => ∃ p, f.posted (.create context tag bag) = some p ∧ p.Adds policy m r)
      (f.create context tag bag).feed := by
  obtain ⟨-, hgraph, hservice, hdisturbances⟩ := create_frame f context tag bag
  refine ⟨hservice, hgraph, hdisturbances, fun m => ?_⟩
  rcases create_cases hkinds context tag bag with
    ⟨e, -, hstore⟩ | ⟨k, -, d, htag, hplan, hout, hstore⟩
  · exact ⟨[], by rw [hstore, List.append_nil], fun r hr => by cases hr⟩
  · have hposted : f.posted (.create context tag bag) = some (f.posting k bag) := by
      rw [posted, hout, htag]
    have hrows : (f.create context tag bag).feed.store.rows m = if m = d.mailbox then
        f.store.rows m ++ Store.numbered f.store.issued (d.events.map Row.ofEvent)
        else f.store.rows m := by
      rw [hstore, Store.insert_eq, ← Store.rows_append]
      cases m <;> rfl
    -- the one mailbox gets the rows, and the other one nothing
    by_cases hm : m = d.mailbox
    · subst hm
      rw [if_pos rfl] at hrows
      exact ⟨_, hrows, fun r hr => ⟨_, hposted, adds_of_plan hplan hr⟩⟩
    · rw [if_neg hm] at hrows
      exact ⟨[], by rw [hrows, List.append_nil], fun r hr => by cases hr⟩

/-! ### What a stranger reads -/

/-- What a reader learns from a call is settled by the work that is done. -/
theorem timeline_eq_of_work {g : Feed} {context : CallContext} {r : Service.Request}
    (h : g.service.timeline g.collaborators context r =
      f.service.timeline f.collaborators context r) :
    (g.timeline context r).outcome = (f.timeline context r).outcome ∧
      (g.timeline context r).notices = (f.timeline context r).notices ∧
      (g.timeline context r).elapsed = (f.timeline context r).elapsed := by
  unfold timeline hideAbandoned conclude
  rw [h]
  cases (f.service.timeline f.collaborators context r).outcome with
  | ok page => exact ⟨rfl, rfl, rfl⟩
  | error e => cases e <;> exact ⟨rfl, rfl, rfl⟩

/-- An event that is created has the kind of its tag. -/
theorem eq_posting_of_posted {context : CallContext} {p : Posting}
    (h : f.posted (.create context tag bag) = some p) :
    ∃ k, Kind.ofTag? tag = some k ∧ p = f.posting k bag := by
  simp only [posted] at h
  split at h
  · exact ⟨_, ‹_›, (Option.some.inj h).symm⟩
  · cases h

/-- **Nothing reaches a stranger.** An event is created, with whatever success, and a user is not
among its recipients; if it is an article that is kept, its author is not among the followed users
into whose outboxes the reader looks. Then reading a page ends in the same way as without the event,
with the same reports and after the same time, and the graph is as it was. This holds of every
store.

Where no two rows have the number in common, it does not matter either in which order handlers end
that take the same time: whatever the two orders are, a page of the one reading is a page of the
other. -/
theorem timeline_of_stranger
    (hkinds : f.service.registry.handlers.Perm (kinds.map (Handler.ofKind policy)))
    (context : CallContext) (tag : String) (bag : Bag) {viewer : ℤ}
    (hstranger : ∀ p, f.posted (.create context tag bag) = some p →
      viewer ∉ p.recipients policy ∧ ∀ author, p.keeper policy = some author →
        author ∉ f.graph.followees viewer policy.followeeLimit)
    (readContext : CallContext) (before : Option Instant) (limit : Option ℕ) :
    let g := (f.create context tag bag).feed
    let r : Service.Request := ⟨viewer, before, limit⟩
    g.graph = f.graph ∧
    ((g.timeline readContext r).outcome = (f.timeline readContext r).outcome ∧
      (g.timeline readContext r).notices = (f.timeline readContext r).notices ∧
      (g.timeline readContext r).elapsed = (f.timeline readContext r).elapsed) ∧
    (((f.store.inbox ++ f.store.outbox).map Row.id).Nodup →
      ∀ order order', f.service.EndingOrder f.collaborators r order →
        g.service.EndingOrder g.collaborators r order' →
        ∀ page, g.service.timelineIn g.collaborators readContext r order' = .ok page ↔
          f.service.timelineIn f.collaborators readContext r order = .ok page) := by
  intro g r
  have hgrew := grew_create hkinds context tag bag
  have hnow : r.before.getD g.now = r.before.getD f.now := by
    rw [(create_frame f context tag bag).1]
  have hpast : ∀ m row, (∃ p, f.posted (.create context tag bag) = some p ∧ p.Adds policy m row) →
      LooksPast (f.graph.followees viewer policy.followeeLimit) viewer (r.before.getD f.now) m
        row := by
    rintro m row ⟨p, hp, hadds⟩
    obtain ⟨hrecipient, hkeeper⟩ := hstranger p hp
    exact hadds.looksPast hrecipient hkeeper _
  refine ⟨hgrew.graph, ?_, fun hids order order' horder horder' page => ?_⟩
  · exact timeline_eq_of_work (hgrew.timeline_eq hkinds hnow hpast readContext)
  · exact hgrew.timelineIn_eq_ok_iff hkinds hnow hpast hids horder horder' page

/-- The feed `ActivityFeed.Feed.inherited` under another policy: every article is kept, and readers
look into the outbox of one author. -/
def inheritedKept : Feed :=
  { inherited with service := ⟨⟨[.article ⟨0, 1, 10⟩, .like], by decide⟩, {}⟩ }

/-- The user 1 follows the author 6 but does not look so far, and reads as before, also if the
handlers end the other way round. -/
theorem timeline_of_stranger_inheritedKept :
    let g := (inheritedKept.create {} "article_event" (.ofList [("uid", "6")])).feed
    let r : Service.Request := ⟨1, some ⟨0, 9000000⟩, some 10⟩
    g.store.outbox.length = inheritedKept.store.outbox.length + 1 ∧
      (g.timeline {} r).outcome = (inheritedKept.timeline {} r).outcome ∧
      ∀ page, g.service.timelineIn g.collaborators {} r [.like, .article ⟨0, 1, 10⟩] = .ok page ↔
        inheritedKept.service.timelineIn inheritedKept.collaborators {} r
          [.article ⟨0, 1, 10⟩, .like] = .ok page := by
  intro g r
  have hkinds : inheritedKept.service.registry.handlers.Perm
      ([.article, .like].map (Handler.ofKind ⟨0, 1, 10⟩)) := .refl _
  have hstranger : ∀ p, inheritedKept.posted (.create {} "article_event" (.ofList [("uid", "6")])) =
      some p → 1 ∉ p.recipients ⟨0, 1, 10⟩ ∧ ∀ author, p.keeper ⟨0, 1, 10⟩ = some author →
        author ∉ inheritedKept.graph.followees 1 1 := by
    rintro p hp
    obtain ⟨k, hk, rfl⟩ := eq_posting_of_posted hp
    obtain rfl : k = .article := Option.some.inj (hk.symm.trans (by decide))
    refine ⟨by decide +kernel, fun author hauthor => ?_⟩
    obtain rfl : author = 6 := Option.some.inj (hauthor.symm.trans (by decide +kernel))
    decide
  obtain ⟨-, hread, horders⟩ := timeline_of_stranger hkinds {} "article_event"
    (.ofList [("uid", "6")]) hstranger {} (some ⟨0, 9000000⟩) (some 10)
  refine ⟨by decide +kernel, hread.1, horders readable_inherited.distinct _ _ ?_ ?_⟩
  · exact ⟨.refl _, by decide +kernel⟩
  · exact ⟨.swap _ _ _, by decide +kernel⟩

end Feed

end ActivityFeed
