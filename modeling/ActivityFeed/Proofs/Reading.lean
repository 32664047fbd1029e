import ActivityFeed.Feed
import ActivityFeed.Proofs.Selection
import ActivityFeed.Proofs.Work

/-!
# Reading a page

Each handler answers for its kind of events, the article handler from two mailboxes, and the service
merges the answers. Every answer is cut to the size of the page, the article handler cuts again
what it joins, and the service cuts once more.

The page is nevertheless the beginning of the plain timeline of
`ActivityFeed.Store.timeline`, in which everything is sorted once and cut once
(`ActivityFeed.Feed.timeline_eq_reference`). This holds of every page that is returned at all,
however slow the collaborators were and in whatever order the handlers came to their ends; and a
page is returned whenever nothing disturbs the calls and there is any time for it.
-/

namespace ActivityFeed

namespace Feed

variable {f : Feed}

/-! ### Asking the graph and the store -/

/-- **An answer is the right answer**, whatever disturbed the call. -/
theorem eq_answer_of_ask {q : Query} {a : q.Answer}
    (h : (f.collaborators.ask q).outcome = .ok a) : a = answer f.graph f.store q := by
  have hanswer : ∀ {x : Work q.Answer}, x.outcome = .ok a →
      x = answering f.graph f.store q → a = answer f.graph f.store q := by
    rintro x hx rfl
    exact (Except.ok.inj hx).symm
  change (Disturbance.apply _ _ _).outcome = _ at h
  -- a disturbed call may fail or be late, but it is not answered from anything else
  unfold Disturbance.apply at h
  split at h
  · obtain ⟨_, -, h⟩ := Timed.outcome_bind_eq_ok.mp h
    exact hanswer h rfl
  · rename_i d _
    obtain ⟨_, -, h⟩ := Timed.outcome_bind_eq_ok.mp h
    unfold Disturbance.effectOn at h
    split at h
    · exact hanswer h rfl
    · simp [Timed.fail] at h
    · simp [Timed.fail] at h

/-- Where nothing disturbs calls, the answer comes at once. -/
theorem atOnce_ask (hcalm : f.disturbances = []) (q : Query) :
    (f.collaborators.ask q).AtOnce (.ok (answer f.graph f.store q)) := by
  have hask : f.collaborators.ask q =
      Timed.bind ⟨[(0, .call (.ask q))], 0, .ok ()⟩ fun _ => answering f.graph f.store q := by
    change Disturbance.apply f.disturbances _ _ = _
    rw [hcalm]
    rfl
  rw [hask]
  exact .bind ⟨rfl, rfl⟩ ⟨rfl, rfl⟩

/-! ### What a handler finds -/

section Handlers

variable (policy : FanoutPolicy) (uid : ℤ) (before : Instant) (limit : ℕ)

/-- What the handler of a kind finds: the first events of its kind. -/
def found (f : Feed) (k : Kind) : List FeedEvent :=
  (newestFirst (eventsBefore before
    (f.store.rowsOf (f.graph.followees uid policy.followeeLimit) uid k))).take limit

/-- What the handler of a kind picks out of any store, however odd its rows are: the answer of the
store, and for articles two of them, merged. -/
def picked (f : Feed) : Kind → List FeedEvent
  | .article => mergeTimeline [(f.store.pushed Kind.article.tag uid before limit).map Row.toEvent,
      (f.store.kept Kind.article.tag (f.graph.followees uid policy.followeeLimit) before
        limit).map Row.toEvent] limit
  | k => (f.store.pushed k.tag uid before limit).map Row.toEvent

variable {policy uid before limit}

theorem pushed_eq (hs : f.store.Readable) (hb : ¬before.InLeapSecond) (k : Kind) :
    (f.store.pushed k.tag uid before limit).map Row.toEvent =
      (newestFirst (eventsBefore before
        (f.store.inbox.filter fun r => r.tag == k.tag && r.uid == uid))).take limit :=
  Store.map_toEvent_scan hs .inbox k.tag (· == uid) hb limit

theorem kept_eq (hs : f.store.Readable) (hb : ¬before.InLeapSecond) (uids : List ℤ) :
    (f.store.kept Kind.article.tag uids before limit).map Row.toEvent =
      (newestFirst (eventsBefore before
        (f.store.outbox.filter fun r => r.tag == Kind.article.tag && uids.contains r.uid))).take
          limit :=
  Store.map_toEvent_scan hs .outbox Kind.article.tag (uids.contains ·) hb limit

/-- A handler that reads one inbox picks what was pushed. -/
theorem picked_of_ne_article {k : Kind} (hk : k ≠ .article) :
    f.picked policy uid before limit k =
      (f.store.pushed k.tag uid before limit).map Row.toEvent := by
  cases k with
  | article => exact absurd rfl hk
  | follow => rfl
  | like => rfl

/-- **What a handler picks are rows of its kind before the cursor**, none of them twice. -/
theorem picked_subperm (f : Feed) (k : Kind) :
    (f.picked policy uid before limit k).Subperm
      (((f.store.rowsOf (f.graph.followees uid policy.followeeLimit) uid k).filter
        fun r => decide (r.ctime < before.cursorMillis)).map Row.toEvent) := by
  have hpushed := Store.map_toEvent_scan_subperm f.store .inbox k.tag (· == uid) before limit
  by_cases hk : k = .article
  · subst hk
    rw [Store.rowsOf, if_pos rfl, List.filter_append, List.map_append]
    refine (mergeTimeline_subperm _ limit).trans ?_
    rw [List.flatten_cons, List.flatten_cons, List.flatten_nil, List.append_nil]
    exact hpushed.append (Store.map_toEvent_scan_subperm f.store .outbox _ _ before limit)
  · rw [Store.rowsOf, if_neg hk, List.append_nil, picked_of_ne_article hk]
    exact hpushed

/-- Merging the two cut sources of articles finds the first articles. -/
theorem found_article (hs : f.store.Readable) (hb : ¬before.InLeapSecond) :
    f.found policy uid before limit .article =
      mergeTimeline [(f.store.pushed Kind.article.tag uid before limit).map Row.toEvent,
        (f.store.kept Kind.article.tag (f.graph.followees uid policy.followeeLimit) before
          limit).map Row.toEvent] limit := by
  rw [found, Store.rowsOf, if_pos rfl, eventsBefore_append, pushed_eq hs hb, kept_eq hs hb]
  have hcut := mergeTimeline_cut
    [eventsBefore before (f.store.inbox.filter fun r => r.tag == Kind.article.tag && r.uid == uid),
      eventsBefore before (f.store.outbox.filter fun r => r.tag == Kind.article.tag &&
        (f.graph.followees uid policy.followeeLimit).contains r.uid)] limit
  simp only [List.map_cons, List.map_nil, List.flatten_cons, List.flatten_nil,
    List.append_nil] at hcut
  exact hcut.symm

/-- **In a readable store, handlers pick the first events of their kinds.** -/
theorem picked_eq_found (hs : f.store.Readable) (hb : ¬before.InLeapSecond) (k : Kind) :
    f.picked policy uid before limit k = f.found policy uid before limit k := by
  by_cases hk : k = .article
  · subst hk
    exact (found_article hs hb).symm
  · rw [picked_of_ne_article hk, found, Store.rowsOf, if_neg hk, List.append_nil, pushed_eq hs hb]

/-- Nobody keeps anything for a user who follows nobody. -/
theorem kept_nil (s : Store) (tag : String) : s.kept tag [] before limit = [] := by
  simp [Store.kept, Store.scan]

theorem eq_of_findKept {events : List FeedEvent}
    (h : (Handler.Article.findKept policy f.collaborators uid before limit).outcome = .ok events) :
    events = (f.store.kept Kind.article.tag (f.graph.followees uid policy.followeeLimit) before
      limit).map Row.toEvent := by
  obtain ⟨followees, hfollowees, h⟩ := Timed.outcome_bind_eq_ok.mp h
  obtain rfl := eq_answer_of_ask hfollowees
  split at h
  · -- the store is not asked at all, and it would have had nothing
    rename_i hempty
    have hnone : f.graph.followees uid policy.followeeLimit = [] := List.isEmpty_iff.mp hempty
    rw [hnone, kept_nil, List.map_nil]
    exact (Except.ok.inj h).symm
  · exact eq_answer_of_ask h

/-- **A handler finds what it picks out of the store**, if it ends well at all. -/
theorem eq_picked_of_find {k : Kind} {events : List FeedEvent}
    (h : ((Handler.ofKind policy k).find f.collaborators uid before limit).outcome = .ok events) :
    events = f.picked policy uid before limit k := by
  cases k with
  | article =>
    obtain ⟨⟨inbox, outbox⟩, hboth, h⟩ := Timed.outcome_bind_eq_ok.mp h
    obtain ⟨hinbox, houtbox⟩ := Timed.outcome_both_eq_ok.mp hboth
    obtain ⟨_, -, h⟩ := Timed.outcome_bind_eq_ok.mp h
    obtain rfl := eq_answer_of_ask hinbox
    obtain rfl := eq_of_findKept houtbox
    exact (Except.ok.inj h).symm
  | follow => exact eq_answer_of_ask h
  | like => exact eq_answer_of_ask h

theorem atOnce_findKept (hcalm : f.disturbances = []) :
    (Handler.Article.findKept policy f.collaborators uid before limit).AtOnce
      (.ok ((f.store.kept Kind.article.tag (f.graph.followees uid policy.followeeLimit) before
        limit).map Row.toEvent)) := by
  refine (atOnce_ask hcalm (.followees uid policy.followeeLimit)).bind ?_
  change Timed.AtOnce (if (f.graph.followees uid policy.followeeLimit).isEmpty then _ else _) _
  by_cases hempty : (f.graph.followees uid policy.followeeLimit).isEmpty = true
  · rw [if_pos hempty, List.isEmpty_iff.mp hempty, kept_nil]
    exact .pure []
  · rw [if_neg hempty]
    exact atOnce_ask hcalm (.kept _ _ _ _)

/-- Where nothing disturbs calls, every handler ends well, and at once. -/
theorem atOnce_find (hcalm : f.disturbances = []) (k : Kind) :
    ∃ events, ((Handler.ofKind policy k).find f.collaborators uid before limit).AtOnce
      (.ok events) := by
  cases k with
  | article =>
    have hinbox := atOnce_ask hcalm (.pushed Kind.article.tag uid before limit)
    exact ⟨_, (hinbox.both (atOnce_findKept hcalm)).bind ((Timed.AtOnce.note _).bind (.pure _))⟩
  | follow => exact ⟨_, atOnce_ask hcalm _⟩
  | like => exact ⟨_, atOnce_ask hcalm _⟩

end Handlers

/-! ### What the service makes of it -/

section Service

variable {policy : FanoutPolicy} {kinds : List Kind} {q : PageQuery} {deadline : ℕ}

/-- Parts that all ended well are what the handlers picked. -/
theorem eq_map_picked_of_part {parts : List (List FeedEvent)}
    (h : kinds.map (fun k => (Service.part f.collaborators q (Handler.ofKind policy k)).outcome) =
      parts.map .ok) : parts = kinds.map (f.picked policy q.uid q.before q.limit) := by
  induction kinds generalizing parts with
  | nil => simpa using h.symm
  | cons k kinds ih =>
    cases parts with
    | nil => simp at h
    | cons events parts =>
      obtain ⟨hpart, hparts⟩ := List.cons.inj h
      obtain ⟨events', hfind, hnote⟩ := Timed.outcome_bind_eq_ok.mp hpart
      obtain ⟨_, -, hpure⟩ := Timed.outcome_bind_eq_ok.mp hnote
      rw [List.map_cons, ← ih hparts, ← Except.ok.inj hpure,
        eq_picked_of_find (Timed.outcome_mapError_eq_ok.mp hfind)]

/-- The parts of a page are what the handlers picked, in the order in which they ended. -/
theorem exists_perm_of_parts
    (hkinds : f.service.registry.handlers.Perm (kinds.map (Handler.ofKind policy)))
    {parts : List (List FeedEvent)}
    (h : (f.service.parts f.collaborators deadline q).outcome = .ok parts) :
    ∃ kinds' : List Kind, kinds'.Perm kinds ∧
      parts = kinds'.map (f.picked policy q.uid q.before q.limit) := by
  unfold Service.parts at h
  split at h
  · rename_i hempty
    rw [List.isEmpty_iff.mp hempty] at hkinds
    have hnone : kinds = [] := by simpa using hkinds.symm.eq_nil
    exact ⟨[], .of_eq hnone.symm, (Except.ok.inj h).symm⟩
  · -- the tasks, in the order in which they ended, are the parts of the kinds in some order
    obtain ⟨-, h⟩ := Timed.outcome_before_eq_ok.mp h
    obtain ⟨tasks, hperm, hout⟩ := Timed.exists_perm_of_outcome_gather h
    obtain ⟨kinds', rfl, hk⟩ := Timed.exists_perm_of_perm_map
      (List.map_map ▸ hperm.trans (hkinds.map (Service.part f.collaborators q)))
    refine ⟨kinds', hk, eq_map_picked_of_part ?_⟩
    rw [← hout, List.map_map]
    rfl

/-- **What the handlers pick together are visible rows before the cursor**, none of them twice. -/
theorem flatten_picked_subperm (f : Feed) (hk : kinds.Nodup) {kinds' : List Kind}
    (hp : kinds'.Perm kinds) (uid : ℤ) (before : Instant) (limit : ℕ) :
    (kinds'.map (f.picked policy uid before limit)).flatten.Subperm
      (((f.store.visibleRows kinds (f.graph.followees uid policy.followeeLimit) uid).filter
        fun r => decide (r.ctime < before.cursorMillis)).map Row.toEvent) := by
  have hflat : (kinds'.map (f.picked policy uid before limit)).flatten.Subperm
      (((kinds'.flatMap (f.store.rowsOf (f.graph.followees uid policy.followeeLimit) uid)).filter
        fun r => decide (r.ctime < before.cursorMillis)).map Row.toEvent) := by
    clear hp
    induction kinds' with
    | nil => exact .refl _
    | cons k kinds' ih =>
      rw [List.map_cons, List.flatten_cons, List.flatMap_cons, List.filter_append, List.map_append]
      exact (picked_subperm f k).append ih
  have hrows := (hp.flatMap_right (f.store.rowsOf (f.graph.followees uid policy.followeeLimit)
    uid)).trans (Store.flatMap_rowsOf_perm hk)
  exact hflat.trans ((hrows.filter _).map _).subperm

/-- **Merging what the handlers found is cutting the plain timeline**, in whatever order they come
to their ends. -/
theorem mergeTimeline_found (hs : f.store.Readable) (hk : kinds.Nodup) {kinds' : List Kind}
    (hp : kinds'.Perm kinds) (uid : ℤ) (before : Instant) (limit : ℕ) :
    mergeTimeline (kinds'.map (f.found policy uid before limit)) limit =
      (f.store.timeline kinds (f.graph.followees uid policy.followeeLimit) uid before).take
        limit := by
  have hcut := mergeTimeline_cut (kinds'.map fun k => eventsBefore before
    (f.store.rowsOf (f.graph.followees uid policy.followeeLimit) uid k)) limit
  rw [List.map_map] at hcut
  have hrows := (hp.flatMap_right (f.store.rowsOf (f.graph.followees uid policy.followeeLimit)
    uid)).trans (Store.flatMap_rowsOf_perm hk)
  have hflat : (kinds'.map fun k => eventsBefore before
        (f.store.rowsOf (f.graph.followees uid policy.followeeLimit) uid k)).flatten =
      eventsBefore before (kinds'.flatMap
        (f.store.rowsOf (f.graph.followees uid policy.followeeLimit) uid)) := by
    rw [eventsBefore, List.map_flatMap, List.filter_flatMap, List.flatMap_def]
    rfl
  rw [Store.timeline, ← newestFirst_eq_of_perm (eventsBefore_perm hrows before), ← hflat]
  · exact hcut
  · refine nodup_ids_eventsBefore ?_ before
    exact ((hrows.map Row.id).nodup_iff).mpr (Store.nodup_ids_visibleRows hs)

end Service

/-! ### What the reader gets -/

section Page

/-- **What a user sees before an instant**, found without detours: everything at once, sorted
once. -/
def visible (f : Feed) (policy : FanoutPolicy) (kinds : List Kind) (uid : ℤ) (before : Instant) :
    List FeedEvent :=
  f.store.timeline kinds (f.graph.followees uid policy.followeeLimit) uid before

variable {policy : FanoutPolicy} {kinds : List Kind} {context : CallContext} {uid : ℤ}
  {before : Instant} {limit : ℕ}

theorem outcome_timeline (f : Feed) (context : CallContext) (r : Service.Request) :
    (f.timeline context r).outcome = (f.service.timeline f.collaborators context r).outcome := by
  unfold timeline hideAbandoned
  split <;> rfl

/-- The kinds in use are different. -/
theorem nodup_of_handlers
    (hkinds : f.service.registry.handlers.Perm (kinds.map (Handler.ofKind policy))) :
    kinds.Nodup := by
  have hmap := hkinds.map Handler.kind
  rw [List.map_map, show Handler.kind ∘ Handler.ofKind policy = id from
    funext (Handler.kind_ofKind policy), List.map_id] at hmap
  exact (hmap.nodup_iff).mp f.service.registry.distinct

/-- **A page that is returned merges what the handlers picked**, in the order in which they
ended. -/
theorem exists_perm_of_page {r : Service.Request}
    (hkinds : f.service.registry.handlers.Perm (kinds.map (Handler.ofKind policy))) {page : Page}
    (h : (f.service.timeline f.collaborators context r).outcome = .ok page) :
    let q := f.service.query f.now r
    ∃ kinds' : List Kind, kinds'.Perm kinds ∧
      page.events = mergeTimeline (kinds'.map (f.picked policy q.uid q.before q.limit)) q.limit := by
  obtain ⟨_, -, h⟩ := Timed.outcome_bind_eq_ok.mp h
  obtain ⟨_, -, h⟩ := Timed.outcome_bind_eq_ok.mp h
  obtain ⟨parts, hparts, h⟩ := Timed.outcome_bind_eq_ok.mp h
  obtain ⟨kinds', hp, rfl⟩ := exists_perm_of_parts hkinds hparts
  exact ⟨kinds', hp, congrArg Page.events (Except.ok.inj h).symm⟩

/-- **A page that is returned shows visible rows before the cursor**, none of them twice, whatever is
stored. -/
theorem events_subperm_of_page {r : Service.Request}
    (hkinds : f.service.registry.handlers.Perm (kinds.map (Handler.ofKind policy))) {page : Page}
    (h : (f.service.timeline f.collaborators context r).outcome = .ok page) :
    page.events.Subperm
      (((f.store.visibleRows kinds (f.graph.followees r.uid policy.followeeLimit) r.uid).filter
        fun row => decide (row.ctime < (r.before.getD f.now).cursorMillis)).map Row.toEvent) := by
  obtain ⟨kinds', hp, hpage⟩ := exists_perm_of_page hkinds h
  rw [hpage]
  exact (mergeTimeline_subperm _ _).trans
    (flatten_picked_subperm f (nodup_of_handlers hkinds) hp _ _ _)

/-- **A page that is returned is the beginning of the plain timeline.** -/
theorem events_of_page
    (hkinds : f.service.registry.handlers.Perm (kinds.map (Handler.ofKind policy)))
    (hs : f.store.Readable) (hb : ¬before.InLeapSecond) {page : Page}
    (h : (f.service.timeline f.collaborators context ⟨uid, some before, some limit⟩).outcome =
      .ok page) :
    page.events = (f.visible policy kinds uid before).take limit := by
  obtain ⟨kinds', hp, hpage⟩ := exists_perm_of_page hkinds h
  have hfound : kinds'.map (f.picked policy uid before limit) =
      kinds'.map (f.found policy uid before limit) :=
    List.map_congr_left fun k _ => picked_eq_found hs hb k
  exact (hpage.trans (congrArg (mergeTimeline · limit) hfound)).trans
    (mergeTimeline_found hs (nodup_of_handlers hkinds) hp uid before limit)

/-- Where nothing disturbs calls and there is any time for it, the parts are found at once. -/
theorem atOnce_parts
    (hkinds : f.service.registry.handlers.Perm (kinds.map (Handler.ofKind policy)))
    (hcalm : f.disturbances = []) {deadline : ℕ} (hd : 0 < deadline) (q : PageQuery) :
    ∃ parts, (f.service.parts f.collaborators deadline q).AtOnce (.ok parts) := by
  unfold Service.parts
  split
  · exact ⟨[], rfl, rfl⟩
  · have htasks : ∀ x ∈ f.service.registry.handlers.map (Service.part f.collaborators q),
        ∃ events, x.AtOnce (.ok events) := by
      intro x hx
      obtain ⟨h, hh, rfl⟩ := List.mem_map.mp hx
      obtain ⟨k, -, rfl⟩ := List.mem_map.mp (hkinds.mem_iff.mp hh)
      have hfound : ∃ events, ((Handler.ofKind policy k).find f.collaborators q.uid q.before
          q.limit).AtOnce (.ok events) := atOnce_find hcalm k
      obtain ⟨events, hfind⟩ := hfound
      exact ⟨events, (hfind.mapError _).bind ((Timed.AtOnce.note _).bind (.pure events))⟩
    obtain ⟨parts, hparts⟩ := Timed.AtOnce.gather htasks
    exact ⟨parts, hparts.before hd _⟩

/-- **A page is returned** where nothing disturbs calls and there is any time for it. -/
theorem exists_page
    (hkinds : f.service.registry.handlers.Perm (kinds.map (Handler.ofKind policy)))
    (hlimit : 1 ≤ limit ∧ limit ≤ f.service.settings.maxPageSize) (hcalm : f.disturbances = [])
    (hd : 0 < context.timeout.getD f.service.settings.readTimeout) :
    ∃ page, (f.service.timeline f.collaborators context ⟨uid, some before, some limit⟩).outcome =
      .ok page := by
  have hvalid : (f.service.query f.now ⟨uid, some before, some limit⟩).validate = .ok () :=
    PageQuery.validate_eq_ok_iff.mpr hlimit
  obtain ⟨parts, hparts⟩ := atOnce_parts hkinds hcalm hd
    (f.service.query f.now ⟨uid, some before, some limit⟩)
  refine ⟨⟨mergeTimeline parts limit⟩, Timed.outcome_bind_eq_ok.mpr ⟨(), rfl, ?_⟩⟩
  refine Timed.outcome_bind_eq_ok.mpr ⟨(), ?_, ?_⟩
  · rw [Timed.outcome_ofExcept]
    exact congrArg (Except.mapError _) hvalid
  · exact Timed.outcome_bind_eq_ok.mpr ⟨parts, hparts.outcome, rfl⟩

/-- **The page that is read**, where nothing disturbs calls and there is any time for it. -/
theorem outcome_page (context : CallContext) (uid : ℤ)
    (hkinds : f.service.registry.handlers.Perm (kinds.map (Handler.ofKind policy)))
    (hs : f.store.Readable) (hb : ¬before.InLeapSecond)
    (hlimit : 1 ≤ limit ∧ limit ≤ f.service.settings.maxPageSize) (hcalm : f.disturbances = [])
    (hd : 0 < context.timeout.getD f.service.settings.readTimeout) :
    (f.service.timeline f.collaborators context ⟨uid, some before, some limit⟩).outcome =
      .ok ⟨(f.visible policy kinds uid before).take limit⟩ := by
  obtain ⟨page, hpage⟩ := exists_page hkinds hlimit hcalm hd
  rw [hpage, ← events_of_page hkinds hs hb hpage]

/-- **Reading a page is reading everything and cutting once.** Every page that is returned is the
beginning of the plain timeline, however calls were disturbed and in whatever order the handlers
came first; and where nothing disturbs calls, a page is returned as soon as there is any time for
it. -/
theorem timeline_eq_reference (context : CallContext) (uid : ℤ)
    (hkinds : f.service.registry.handlers.Perm (kinds.map (Handler.ofKind policy)))
    (hs : f.store.Readable) (hb : ¬before.InLeapSecond)
    (hlimit : 1 ≤ limit ∧ limit ≤ f.service.settings.maxPageSize) :
    (∀ page, (f.timeline context ⟨uid, some before, some limit⟩).outcome = .ok page →
      page.events = (f.visible policy kinds uid before).take limit) ∧
    (f.disturbances = [] → 0 < context.timeout.getD f.service.settings.readTimeout →
      ∃ page, (f.timeline context ⟨uid, some before, some limit⟩).outcome = .ok page) := by
  rw [outcome_timeline]
  exact ⟨fun _ => events_of_page hkinds hs hb, exists_page hkinds hlimit⟩

/-- A feed as older programs may leave it: rows in no order, with a damaged text, with the tag of no
kind, and of a kind that has no handler. -/
def inherited : Feed where
  now := .epoch
  graph := (Graph.empty.follow 1 5).follow 1 6
  store :=
    { inbox := [⟨7, 1, "like_event", "\x7b\"liked\":", 5⟩, ⟨2, 1, "poke_event", "", 9⟩,
        ⟨3, 2, "like_event", "\x7b\x7d", 5⟩, ⟨8, 1, "article_event", "\x7b\x7d", 5⟩,
        ⟨11, 1, "follow_event", "\x7b\x7d", 6⟩]
      outbox := [⟨4, 6, "article_event", "\x7b\x7d", 6⟩, ⟨9, 5, "article_event", "[]", 5⟩,
        ⟨1, 5, "article_event", "\x7b\x7d", 8⟩]
      issued := 11 }
  service := ⟨⟨[.like, .article ⟨4, 1, 10⟩], by decide⟩, {}⟩
  disturbances := []
  journal := []

theorem readable_inherited : inherited.store.Readable := ⟨by decide, by decide⟩

/-- What the user 1 sees before the ninth millisecond, if the handlers of articles and likes look at
one followee. -/
theorem visible_inherited :
    inherited.visible ⟨4, 1, 10⟩ [.article, .like] 1 ⟨0, 9000000⟩ =
      [⟨1, 5, "article_event", ⟨0, 8000000⟩, .empty⟩, ⟨9, 5, "article_event", ⟨0, 5000000⟩, .empty⟩,
        ⟨8, 1, "article_event", ⟨0, 5000000⟩, .empty⟩,
        ⟨7, 1, "like_event", ⟨0, 5000000⟩, .empty⟩] := by
  refine (Store.isTimeline_timeline readable_inherited _).sorted.eq_of_mem_iff (by decide)
    fun e => ?_
  exact ((newestFirst_perm _).trans (by decide +kernel)).mem_iff

theorem timeline_eq_reference_inherited :
    ∃ page, (inherited.timeline {} ⟨1, some ⟨0, 9000000⟩, some 2⟩).outcome = .ok page ∧
      page.events.map FeedEvent.id = [1, 9] := by
  have hkinds : inherited.service.registry.handlers.Perm
      ([.article, .like].map (Handler.ofKind ⟨4, 1, 10⟩)) := .swap _ _ _
  have hbefore : ¬(⟨0, 9000000⟩ : Instant).InLeapSecond := by decide
  have hlimit : 1 ≤ 2 ∧ 2 ≤ inherited.service.settings.maxPageSize := by decide
  obtain ⟨hpages, hexists⟩ := timeline_eq_reference {} 1 hkinds readable_inherited hbefore hlimit
  obtain ⟨page, hpage⟩ := hexists rfl (by decide)
  refine ⟨page, hpage, ?_⟩
  rw [hpages page hpage, visible_inherited]
  rfl

end Page

end Feed

end ActivityFeed
