import ActivityFeed.Proofs.Isolation
import ActivityFeed.Proofs.Progress

/-!
# Reading on while others write

A walk takes its time, and events are created between two of its reads. Nevertheless the reader
comes past the same pages as if everybody else had waited.

What carries this is one number, the millisecond in which the first page was read. The cursor of
each further page is the stored time of a row that was there before, so it is not beyond that
millisecond. A new row is stored with the millisecond of the clock, which goes on, so it is not in
front of it. The two may meet in the same millisecond, and that is why it matters which of the two
roundings is used where: the times of rows are whole milliseconds, so such a cursor is not rounded
up any more, and the new row is not before it.

* `ActivityFeed.Onward` – what may happen between two reads;
* `ActivityFeed.Feed.Later` – what is true of the feed for the rest of the walk;
* `ActivityFeed.Feed.walkAmid` – a walk during which things happen;
* `ActivityFeed.Feed.FairReader` – a reader to whom handlers may answer in one order now and in
  another one later;
* `ActivityFeed.Feed.walk_steady` – what is read.
-/

namespace ActivityFeed

/-! ### Clocks that go on -/

namespace Instant

variable {a b : Instant}

/-- A later instant lies in a later millisecond or in the same one, unless the earlier one is in a
leap second. -/
theorem millis_le_millis (h : a ≤ b) (ha : ¬a.InLeapSecond) : a.millis ≤ b.millis := by
  rw [le_def] at h
  simp only [InLeapSecond] at ha
  simp only [millis]
  omega

/-- What lies before the cursor of an instant does not lie behind the millisecond of any later
one. -/
theorem le_millis_of_lt_cursorMillis {ms : ℤ} (h : a ≤ b) (ha : ¬a.InLeapSecond)
    (hlt : ms < a.cursorMillis) : ms ≤ b.millis := by
  have hle := millis_le_millis h ha
  simp only [cursorMillis] at hlt
  split at hlt <;> omega

end Instant

/-- **Things go on**: events are created, with whatever success, and the clock is set, but never
back and not into a leap second. Nobody follows anybody, and nobody ceases to. -/
def Onward : Instant → List Action → Prop
  | _, [] => True
  | now, .create _ _ _ :: actions => Onward now actions
  | now, .setClock later :: actions => now ≤ later ∧ ¬later.InLeapSecond ∧ Onward later actions
  | _, .follow _ _ :: _ => False
  | _, .unfollow _ _ :: _ => False

instance : (now : Instant) → (actions : List Action) → Decidable (Onward now actions)
  | _, [] => .isTrue trivial
  | now, .create _ _ _ :: actions => instDecidableOnward now actions
  | now, .setClock later :: actions =>
    have := instDecidableOnward later actions
    inferInstanceAs (Decidable (now ≤ later ∧ ¬later.InLeapSecond ∧ Onward later actions))
  | _, .follow _ _ :: _ => .isFalse id
  | _, .unfollow _ _ :: _ => .isFalse id

namespace Feed

variable {f g : Feed} {policy : FanoutPolicy} {kinds : List Kind} {ms : ℤ}

/-- **The feed later on**: no row was added that lies before the millisecond, and none will be, for
the clock has come as far and is not in a leap second. -/
structure Later (ms : ℤ) (f g : Feed) : Prop where
  /-- The rows that were added do not lie before the millisecond. -/
  grew : f.Grew (fun _ r => ms ≤ r.ctime) g
  /-- The clock has come to the millisecond. -/
  clock : ms ≤ g.now.millis
  /-- The clock is not in a leap second. -/
  noLeap : ¬g.now.InLeapSecond

/-- One action leaves the feed later on. -/
theorem Later.act (h : f.Later ms g)
    (hkinds : f.service.registry.handlers.Perm (kinds.map (Handler.ofKind policy))) {a : Action}
    {actions : List Action} (hon : Onward g.now (a :: actions)) :
    f.Later ms (g.act a) ∧ Onward (g.act a).now actions := by
  cases a with
  | follow follower followee => exact hon.elim
  | unfollow follower followee => exact hon.elim
  | setClock later =>
    obtain ⟨hle, hleap, hon⟩ := hon
    exact ⟨⟨{ h.grew with }, h.clock.trans (Instant.millis_le_millis hle h.noLeap), hleap⟩, hon⟩
  | create context tag bag =>
    have hnow : (g.act (.create context tag bag)).now = g.now := (create_frame g context tag bag).1
    have hgrew := grew_create (h.grew.service ▸ hkinds) context tag bag
    refine ⟨⟨h.grew.trans (hgrew.mono ?_), hnow ▸ h.clock, hnow ▸ h.noLeap⟩, hnow ▸ hon⟩
    -- a new row has the time of the clock
    rintro m r ⟨p, hp, hadds⟩
    obtain ⟨k, -, rfl⟩ := eq_posting_of_posted hp
    rw [hadds.ctime_eq]
    exact h.clock

/-- **What goes on leaves the feed later on.** -/
theorem Later.run (h : f.Later ms g)
    (hkinds : f.service.registry.handlers.Perm (kinds.map (Handler.ofKind policy)))
    {actions rest : List Action} (hon : Onward g.now (actions ++ rest)) :
    f.Later ms (g.run actions) ∧ Onward (g.run actions).now rest := by
  induction actions generalizing g with
  | nil => exact ⟨h, hon⟩
  | cons a actions ih =>
    obtain ⟨h, hon⟩ := h.act hkinds hon
    exact ih h hon

/-! ### Readers -/

/-- **A fair reader** takes the answers of the handlers in some order in which they may end, each
time in another one perhaps. A request that is not in order is refused. -/
structure FairReader (read : Feed → Service.Request → Except ServiceError Page) : Prop where
  /-- What is not in order is refused. -/
  refused : ∀ f r e, (f.service.query f.now r).validate = .error e →
    read f r = .error (.validation (e.message?.getD ""))
  /-- The answers are taken in an order in which the handlers may end. -/
  inOrder : ∀ f r, (f.service.query f.now r).validate = .ok () →
    ∃ order, f.service.EndingOrder f.collaborators r order ∧
      read f r = f.service.timelineIn f.collaborators {} r order

/-- The readers of the service are fair. -/
theorem fairReader_timeline : FairReader fun f r => (f.timeline {} r).outcome where
  refused f r e h := by
    rw [outcome_timeline, Service.timeline_eq_refused h]
  inOrder f r h := by
    rw [outcome_timeline]
    exact Service.exists_endingOrder_of_timeline h

variable {read : Feed → Service.Request → Except ServiceError Page}

/-- A fair reader who looks past all new rows reads the same page as before. -/
theorem FairReader.read_eq_ok_iff (hread : FairReader read) {new : Mailbox → Row → Prop}
    (h : f.Grew new g)
    (hkinds : f.service.registry.handlers.Perm (kinds.map (Handler.ofKind policy)))
    (hids : ((f.store.inbox ++ f.store.outbox).map Row.id).Nodup) {r : Service.Request}
    (hbefore : r.before.getD g.now = r.before.getD f.now)
    (hpast : ∀ m row, new m row → LooksPast (f.graph.followees r.uid policy.followeeLimit) r.uid
      (r.before.getD f.now) m row) (page : Page) :
    read g r = .ok page ↔ (f.service.timeline f.collaborators {} r).outcome = .ok page := by
  have hq : g.service.query g.now r = f.service.query f.now r := by
    rw [h.service, (h.service_find_eq hkinds hbefore hpast).1]
  cases hvalid : (f.service.query f.now r).validate with
  | error e =>
    rw [hread.refused g r e (hq ▸ hvalid), Service.timeline_eq_refused hvalid]
  | ok u =>
    obtain ⟨order', horder', hin'⟩ := hread.inOrder g r (hq ▸ hvalid)
    obtain ⟨order, horder, hin⟩ := fairReader_timeline.inOrder f r hvalid
    simp only [outcome_timeline] at hin
    rw [hin', hin]
    exact h.timelineIn_eq_ok_iff hkinds hbefore hpast hids horder horder' page

/-! ### Walks during which things happen -/

/-- **A walk during which things happen**: before each read there are some actions. -/
def walkAmid (read : Feed → Service.Request → Except ServiceError Page) (f : Feed) :
    List (List Action) → Service.Request → Walk
  | [], _ => ⟨[], .unfinished⟩
  | actions :: between, r =>
    match read (f.run actions) r with
    | .error e => ⟨[], .failed e⟩
    | .ok page =>
      match page.nextBefore? with
      | none => ⟨[], .complete⟩
      | some before =>
        ((f.run actions).walkAmid read between { r with before := some before }).cons page

end Feed

/-- **Two walks are alike**: they come past the same pages, event for event, and end for the same
reason, or each ends because a page could not be read. -/
def Walk.Alike (w w' : Walk) : Prop :=
  w.pages = w'.pages ∧
    (w.ending = w'.ending ∨ ∃ e e', w.ending = .failed e ∧ w'.ending = .failed e')

theorem Walk.Alike.cons {w w' : Walk} (h : w.Alike w') (p : Page) : (w.cons p).Alike (w'.cons p) :=
  ⟨congrArg (p :: ·) h.1, h.2⟩

namespace Feed

variable {f g : Feed} {policy : FanoutPolicy} {kinds : List Kind} {ms : ℤ}
  {read : Feed → Service.Request → Except ServiceError Page} {between : List (List Action)}

/-- Two walks are alike if they read the same first page and go on alike. -/
theorem exists_alike_of_read {actions : List Action} {r : Service.Request}
    (hread : ∀ page, read (g.run actions) r = .ok page ↔
      (f.service.timeline f.collaborators {} r).outcome = .ok page)
    (hrest : ∀ page next, (f.service.timeline f.collaborators {} r).outcome = .ok page →
      page.nextBefore? = some next →
      ∃ w, (f.walkFor between.length { r with before := some next }).outcome = .ok w ∧
        ((g.run actions).walkAmid read between { r with before := some next }).Alike w) :
    ∃ w, (f.walkFor (between.length + 1) r).outcome = .ok w ∧
      (g.walkAmid read (actions :: between) r).Alike w := by
  cases hpage : (f.service.timeline f.collaborators {} r).outcome with
  | error e =>
    refine ⟨_, outcome_walkFor_of_error _ hpage, ?_⟩
    cases hother : read (g.run actions) r with
    | ok page =>
      rw [(hread page).mp hother] at hpage
      cases hpage
    | error e' =>
      simp only [walkAmid, hother]
      exact ⟨rfl, Or.inr ⟨e', e, rfl, rfl⟩⟩
  | ok page =>
    have hother := (hread page).mpr hpage
    cases hnext : page.nextBefore? with
    | none =>
      refine ⟨_, outcome_walkFor_of_none _ hpage hnext, ?_⟩
      simp only [walkAmid, hother, hnext]
      exact ⟨rfl, Or.inl rfl⟩
    | some next =>
      obtain ⟨w, hw, halike⟩ := hrest page next hpage hnext
      refine ⟨_, outcome_walkFor_of_some _ hpage hnext hw, ?_⟩
      simp only [walkAmid, hother, hnext]
      exact halike.cons page

/-- The next page is asked for with a time at which no new row is stored any more. -/
theorem cursorMillis_le_of_nextBefore
    (hkinds : f.service.registry.handlers.Perm (kinds.map (Handler.ofKind policy)))
    (hs : f.store.Readable) {r : Service.Request} {page : Page}
    (h : (f.service.timeline f.collaborators {} r).outcome = .ok page) {next : Instant}
    (hnext : page.nextBefore? = some next)
    (hbefore : ∀ t < (r.before.getD f.now).cursorMillis, t ≤ ms) : next.cursorMillis ≤ ms := by
  obtain ⟨row, hrow, hlt, rfl⟩ := exists_row_of_nextBefore hkinds h hnext
  rw [Row.createdAt_eq (hs.inCalendar row (Store.mem_of_mem_visibleRows hrow)),
    Instant.cursorMillis_ofMillis]
  exact hbefore row.ctime hlt

/-- **The rest of a walk is steady**, once its cursor is not beyond the millisecond at which new
rows begin. -/
theorem exists_alike_of_later (hread : FairReader read)
    (hkinds : f.service.registry.handlers.Perm (kinds.map (Handler.ofKind policy)))
    (hs : f.store.Readable) (uid : ℤ) (limit : Option ℕ) {before : Instant}
    (hbefore : before.cursorMillis ≤ ms) (hlater : f.Later ms g)
    (hon : Onward g.now between.flatten) :
    ∃ w, (f.walkFor between.length ⟨uid, some before, limit⟩).outcome = .ok w ∧
      (g.walkAmid read between ⟨uid, some before, limit⟩).Alike w := by
  induction between generalizing g before with
  | nil => exact ⟨_, rfl, rfl, Or.inl rfl⟩
  | cons actions between ih =>
    obtain ⟨hlater, hon⟩ := hlater.run hkinds hon
    refine exists_alike_of_read (fun page => ?_) fun page next hpage hnext => ?_
    · refine hread.read_eq_ok_iff hlater.grew hkinds hs.distinct rfl ?_ page
      rintro (_ | _) row hnew
      · exact Or.inl (hbefore.trans hnew)
      · exact Or.inl (hbefore.trans hnew)
    · refine ih (cursorMillis_le_of_nextBefore hkinds hs hpage hnext fun t ht => ?_) hlater hon
      exact (Int.lt_of_lt_of_le ht hbefore).le

/-- **A walk is steady.** The first page is read at an instant that the clock has come to, and
between the reads events are created and the clock goes on. The store is readable, and nobody
follows or unfollows meanwhile. Then the reader comes past the same pages as if nothing had happened
between the reads, whatever was created, and in whatever order handlers ended at each of the reads.
-/
theorem walk_steady (hread : FairReader read)
    (hkinds : f.service.registry.handlers.Perm (kinds.map (Handler.ofKind policy)))
    (hs : f.store.Readable) (hnow : ¬f.now.InLeapSecond) {r : Service.Request}
    (hpresent : r.before.getD f.now ≤ f.now) (hleap : ¬(r.before.getD f.now).InLeapSecond)
    (hon : Onward f.now between.flatten) :
    ∃ w, (f.walkFor (between.length + 1) r).outcome = .ok w ∧
      (f.walkAmid read ([] :: between) r).Alike w := by
  refine exists_alike_of_read (fun page => ?_) fun page next hpage hnext => ?_
  · exact hread.read_eq_ok_iff (.refl (fun _ _ => False) f) hkinds hs.distinct rfl
      (fun _ _ h => h.elim) page
  · have hlater : f.Later f.now.millis f := ⟨.refl _ f, Int.le_refl _, hnow⟩
    refine exists_alike_of_later hread hkinds hs r.uid r.limit ?_ hlater hon
    exact cursorMillis_le_of_nextBefore hkinds hs hpage hnext fun t ht =>
      Instant.le_millis_of_lt_cursorMillis hpresent hleap ht

/-- While the user 1 walks through `ActivityFeed.Feed.inherited`, the user gets a like in the very
millisecond of the last event that was read, and an article later on. The last event of all is of an
unknown type. -/
def likesMeanwhile : List (List Action) :=
  [[.create {} "like_event" (.ofList [("liked", "1")])],
    [.setClock ⟨0, 8600000⟩, .create {} "article_event" (.ofList [("uid", "5")]),
      .create {} "poke_event" .empty], [], []]

theorem walk_steady_likesMeanwhile :
    ((inherited.setClock ⟨0, 8500000⟩).walkAmid (fun f r => (f.timeline {} r).outcome)
      ([] :: likesMeanwhile) ⟨1, some ⟨0, 8500000⟩, some 1⟩).pages.map
        (fun page => page.events.map FeedEvent.id) = [[1], [9]] := by
  have hkinds : (inherited.setClock ⟨0, 8500000⟩).service.registry.handlers.Perm
      ([.article, .like].map (Handler.ofKind ⟨4, 1, 10⟩)) := .swap _ _ _
  have hleap : ¬(⟨0, 8500000⟩ : Instant).InLeapSecond := by decide
  have hlimit : 1 ≤ 1 ∧ 1 ≤ inherited.service.settings.maxPageSize := by decide
  obtain ⟨w, hw, hpages, -⟩ := walk_steady fairReader_timeline hkinds readable_inherited hleap
    (r := ⟨1, some ⟨0, 8500000⟩, some 1⟩) (by decide) hleap
    (by decide : Onward ⟨0, 8500000⟩ likesMeanwhile.flatten)
  have hvisible : (inherited.setClock ⟨0, 8500000⟩).visible ⟨4, 1, 10⟩ [.article, .like] 1
      ⟨0, 8500000⟩ = inherited.visible ⟨4, 1, 10⟩ [.article, .like] 1 ⟨0, 9000000⟩ := by
    rw [visible_inherited]
    refine (Store.isTimeline_timeline readable_inherited _).sorted.eq_of_mem_iff (by decide)
      fun e => ?_
    exact ((newestFirst_perm _).trans (by decide +kernel)).mem_iff
  have hreads : ((inherited.setClock ⟨0, 8500000⟩).visible ⟨4, 1, 10⟩ [.article, .like] 1
      ⟨0, 8500000⟩).length < likesMeanwhile.length + 1 := by
    rw [hvisible, visible_inherited]
    decide
  have hwalk := outcome_walkFor 1 hkinds readable_inherited hleap hlimit rfl (by decide) hreads
  rw [hpages, Except.ok.inj (hw.symm.trans hwalk), hvisible, visible_inherited]
  rw [pages_of_some rfl, pages_of_some rfl, pages_of_none rfl]
  rfl

end Feed

end ActivityFeed
