import ActivityFeed.Proofs.Pagination

/-!
# Times that the calendar does not reach

Rows come from older programs too, and any number may stand in one as its time. Storage selects rows
by that number, while a page shows the instant that the number is read as, and the next page is
asked for with that instant. This file says what becomes of a walk then, without any condition on
what is stored.

For a number of the calendar the two agree, so that a page shows only what is earlier than its
cursor, and each page takes the reader further back. A number behind the calendar does no harm, as
no cursor reaches it. But the row of a number in front of the calendar lies before every cursor, and
it is read as the beginning of 1970. Such a row is *ancient* (`ActivityFeed.Row.Ancient`). It is
found again on every page, and the walk of a reader who sees one never ends.

* `ActivityFeed.Feed.exists_row_of_mem_page`, `ActivityFeed.Feed.page_ne_nil` – the rows of a page,
  whatever is stored;
* `ActivityFeed.Feed.walk_complete_of_not_ancient`, `ActivityFeed.Feed.walk_unfinished_of_ancient` –
  the two ways that a walk can go;
* `ActivityFeed.Feed.walk_ends_or_never` – both in one statement;
* `ActivityFeed.Feed.walk_stuck` – a row and a reader who reads it for ever.
-/

namespace ActivityFeed

/-! ### The two ends of the calendar -/

namespace Instant

variable {t : Instant} {ms : ℤ}

/-- The cursor of an instant does not lie in front of the calendar. -/
theorem firstMilli_le_cursorMillis (h : t.InCalendar) : firstMilli ≤ t.cursorMillis := by
  obtain ⟨hfirst, -⟩ := h
  simp only [dayNumber, daySecs] at hfirst
  simp only [firstMilli, cursorMillis, millis, daySecs]
  split <;> omega

/-- What lies before a cursor does not lie behind the calendar. -/
theorem le_lastMilli_of_lt_cursorMillis (h : t.Ordinary) (hlt : ms < t.cursorMillis) :
    ms ≤ lastMilli := by
  have hmillis := h.milliInCalendar.2
  simp only [cursorMillis] at hlt
  split at hlt <;> omega

/-- The milliseconds of the calendar begin at ordinary instants. -/
theorem ordinary_ofMillis (h : MilliInCalendar ms) : (ofMillis ms).Ordinary := by
  refine ⟨?_, not_inLeapSecond_ofMillis ms⟩
  obtain ⟨hfirst, hlast⟩ := h
  simp only [firstMilli, daySecs] at hfirst
  simp only [lastMilli, daySecs] at hlast
  constructor
  · simp only [dayNumber, ofMillis, daySecs]
    omega
  · simp only [dayNumber, ofMillis, daySecs]
    omega

theorem ordinary_epoch : epoch.Ordinary := by decide

end Instant

namespace Row

variable {r : Row} {before : Instant}

/-- **The row is ancient**: its time lies in front of the calendar. -/
def Ancient (r : Row) : Prop := r.ctime < Instant.firstMilli

instance (r : Row) : Decidable r.Ancient := inferInstanceAs (Decidable (_ < _))

/-- An ancient row lies before every cursor. -/
theorem Ancient.lt_cursorMillis (h : r.Ancient) (hb : before.InCalendar) :
    r.ctime < before.cursorMillis :=
  lt_of_lt_of_le h (Instant.firstMilli_le_cursorMillis hb)

/-- An ancient row is read as the beginning of 1970. -/
theorem Ancient.createdAt_eq (h : r.Ancient) : r.createdAt = .epoch := by
  have hnot : ¬Instant.MilliInCalendar r.ctime := fun hin => not_le_of_gt h hin.1
  rw [Row.createdAt, Instant.ofMillis?, if_neg hnot, Option.getD_none]

/-- A row before a cursor is of the calendar, unless it is ancient. -/
theorem milliInCalendar_of_not_ancient (h : ¬r.Ancient) (hb : before.Ordinary)
    (hlt : r.ctime < before.cursorMillis) : Instant.MilliInCalendar r.ctime :=
  ⟨not_lt.mp h, Instant.le_lastMilli_of_lt_cursorMillis hb hlt⟩

/-- A row before a cursor is read as something earlier, unless it is ancient. -/
theorem createdAt_lt_of_not_ancient (h : ¬r.Ancient) (hb : before.Ordinary)
    (hlt : r.ctime < before.cursorMillis) : r.createdAt < before :=
  (ctime_lt_cursorMillis_iff (milliInCalendar_of_not_ancient h hb hlt) hb.2).mp hlt

/-- Whatever stands in a row, it is read as an ordinary instant. -/
theorem ordinary_createdAt (r : Row) : r.createdAt.Ordinary := by
  by_cases h : Instant.MilliInCalendar r.ctime
  · rw [createdAt_eq h]
    exact Instant.ordinary_ofMillis h
  · rw [createdAt, Instant.ofMillis?, if_neg h, Option.getD_none]
    exact Instant.ordinary_epoch

/-- Of some rows, fewer lie before one of them than before what that one lies before. -/
theorem length_filter_ctime_lt {rows : List Row} {ms : ℤ} (hr : r ∈ rows) (hlt : r.ctime < ms) :
    (rows.filter fun r' => decide (r'.ctime < r.ctime)).length <
      (rows.filter fun r' => decide (r'.ctime < ms)).length := by
  -- the row itself is in the greater part only
  rw [← filter_ctime_lt hlt.le rows]
  refine List.length_filter_lt_length_iff_exists.mpr ⟨r, ?_, by simp⟩
  exact List.mem_filter.mpr ⟨hr, decide_eq_true hlt⟩

end Row

/-! ### The rows of a page -/

namespace Store

variable {s : Store} {m : Mailbox} {tag : String} {owns : ℤ → Bool} {before : Instant} {limit : ℕ}
  {r : Row}

/-- The store answers with something if there is a wanted row before the cursor. -/
theorem scan_ne_nil (hr : r ∈ (s.rows m).filter fun r => r.tag == tag && owns r.uid)
    (hlt : r.ctime < before.cursorMillis) (hlimit : 1 ≤ limit) :
    s.scan m tag owns before limit ≠ [] := by
  have hwanted : r ∈ (s.rows m).filter fun r =>
      r.tag == tag && decide (r.ctime < before.cursorMillis) && owns r.uid := by
    rw [Row.filter_wanted]
    exact List.mem_filter.mpr ⟨hr, decide_eq_true hlt⟩
  intro hnil
  rw [scan, List.take_eq_nil_iff] at hnil
  rcases hnil with hzero | hnil
  · omega
  · exact List.not_mem_nil (hnil ▸ (List.mergeSort_perm _ _).mem_iff.mpr hwanted : r ∈ [])

end Store

namespace Feed

section Rows

variable {f : Feed} {policy : FanoutPolicy} {kinds : List Kind} {context : CallContext} {uid : ℤ}
  {before : Instant} {limit : ℕ}

/-- A handler picks something if there is a row of its kind before the cursor. -/
theorem picked_ne_nil {k : Kind} {r : Row}
    (hr : r ∈ f.store.rowsOf (f.graph.followees uid policy.followeeLimit) uid k)
    (hlt : r.ctime < before.cursorMillis) (hlimit : 1 ≤ limit) :
    f.picked policy uid before limit k ≠ [] := by
  by_cases hk : k = .article
  · subst hk
    rw [Store.rowsOf, if_pos rfl, List.mem_append] at hr
    -- one of the two sources has something to be merged
    rcases hr with hr | hr
    · refine mergeTimeline_ne_nil List.mem_cons_self (fun hnil => ?_) hlimit
      exact Store.scan_ne_nil (m := .inbox) hr hlt hlimit (List.map_eq_nil_iff.mp hnil)
    · refine mergeTimeline_ne_nil (List.mem_cons_of_mem _ List.mem_cons_self) (fun hnil => ?_)
        hlimit
      exact Store.scan_ne_nil (m := .outbox) hr hlt hlimit (List.map_eq_nil_iff.mp hnil)
  · rw [Store.rowsOf, if_neg hk, List.append_nil] at hr
    rw [picked_of_ne_article hk]
    intro hnil
    exact Store.scan_ne_nil (m := .inbox) hr hlt hlimit (List.map_eq_nil_iff.mp hnil)

/-- Kind by kind, the visible rows are met. -/
theorem mem_visibleRows_iff
    (hkinds : f.service.registry.handlers.Perm (kinds.map (Handler.ofKind policy)))
    {followees : List ℤ} {r : Row} :
    r ∈ f.store.visibleRows kinds followees uid ↔ ∃ k ∈ kinds, r ∈ f.store.rowsOf followees uid k :=
  (Store.flatMap_rowsOf_perm (nodup_of_handlers hkinds)).mem_iff.symm.trans List.mem_flatMap

/-- **A page shows visible rows before the cursor**, whatever is stored. -/
theorem exists_row_of_mem_page
    (hkinds : f.service.registry.handlers.Perm (kinds.map (Handler.ofKind policy)))
    {r : Service.Request} {page : Page}
    (h : (f.service.timeline f.collaborators context r).outcome = .ok page) {e : FeedEvent}
    (he : e ∈ page.events) :
    ∃ row ∈ f.store.visibleRows kinds (f.graph.followees r.uid policy.followeeLimit) r.uid,
      row.ctime < (r.before.getD f.now).cursorMillis ∧ row.toEvent = e := by
  obtain ⟨row, hrow, rfl⟩ := List.mem_map.mp ((events_subperm_of_page hkinds h).subset he)
  obtain ⟨hrow, hlt⟩ := List.mem_filter.mp hrow
  exact ⟨row, hrow, of_decide_eq_true hlt, rfl⟩

/-- **A page is not empty** while there is a visible row before the cursor. -/
theorem page_ne_nil
    (hkinds : f.service.registry.handlers.Perm (kinds.map (Handler.ofKind policy))) {page : Page}
    (h : (f.service.timeline f.collaborators context ⟨uid, some before, some limit⟩).outcome =
      .ok page) {row : Row}
    (hrow : row ∈ f.store.visibleRows kinds (f.graph.followees uid policy.followeeLimit) uid)
    (hlt : row.ctime < before.cursorMillis) (hlimit : 1 ≤ limit) : page.events ≠ [] := by
  obtain ⟨kinds', hp, hpage⟩ := exists_perm_of_page hkinds h
  obtain ⟨k, hk, hrow⟩ := (mem_visibleRows_iff hkinds).mp hrow
  rw [hpage]
  exact mergeTimeline_ne_nil (List.mem_map_of_mem (hp.mem_iff.mpr hk))
    (picked_ne_nil hrow hlt hlimit) hlimit

/-- The next page is asked for with the instant of a row of this one. -/
theorem exists_row_of_nextBefore
    (hkinds : f.service.registry.handlers.Perm (kinds.map (Handler.ofKind policy)))
    {r : Service.Request} {page : Page}
    (h : (f.service.timeline f.collaborators context r).outcome = .ok page) {next : Instant}
    (hnext : page.nextBefore? = some next) :
    ∃ row ∈ f.store.visibleRows kinds (f.graph.followees r.uid policy.followeeLimit) r.uid,
      row.ctime < (r.before.getD f.now).cursorMillis ∧ row.createdAt = next := by
  obtain ⟨last, hlast, rfl⟩ := Option.map_eq_some_iff.mp hnext
  obtain ⟨row, hrow, hlt, rfl⟩ := exists_row_of_mem_page hkinds h (List.mem_of_getLast? hlast)
  exact ⟨row, hrow, hlt, rfl⟩

end Rows

/-! ### How a walk goes -/

section Walks

variable {f : Feed} {policy : FanoutPolicy} {kinds : List Kind} (uid : ℤ) {before : Instant}
  {limit : ℕ} (hkinds : f.service.registry.handlers.Perm (kinds.map (Handler.ofKind policy)))
  (hb : before.Ordinary) (hlimit : 1 ≤ limit ∧ limit ≤ f.service.settings.maxPageSize)
  (hcalm : f.disturbances = []) (hd : 0 < f.service.settings.readTimeout)

include hkinds hb hlimit hcalm hd

/-- **A walk ends** if the reader sees no ancient row, and there is no need of more reads than there
are visible rows before the cursor, and one. -/
theorem walk_complete_of_not_ancient
    (hnone : ∀ row ∈ f.store.visibleRows kinds (f.graph.followees uid policy.followeeLimit) uid,
      ¬row.Ancient) {reads : ℕ}
    (hreads : ((f.store.visibleRows kinds (f.graph.followees uid policy.followeeLimit) uid).filter
      fun row => decide (row.ctime < before.cursorMillis)).length < reads) :
    ∃ w, (f.walkFor reads ⟨uid, some before, some limit⟩).outcome = .ok w ∧
      w.ending = .complete := by
  induction reads generalizing before with
  | zero => exact absurd hreads (Nat.not_lt_zero _)
  | succ reads ih =>
    obtain ⟨page, hpage⟩ : ∃ page, (f.service.timeline f.collaborators {}
        ⟨uid, some before, some limit⟩).outcome = .ok page := exists_page hkinds hlimit hcalm hd
    cases hnext : page.nextBefore? with
    | none => exact ⟨_, outcome_walkFor_of_none reads hpage hnext, rfl⟩
    | some next =>
      obtain ⟨row, hrow, hlt, rfl⟩ := exists_row_of_nextBefore hkinds hpage hnext
      have hin := Row.milliInCalendar_of_not_ancient (hnone row hrow) hb hlt
      have hcursor : row.createdAt.cursorMillis = row.ctime := by
        rw [Row.createdAt_eq hin, Instant.cursorMillis_ofMillis]
      have hfewer := Row.length_filter_ctime_lt hrow hlt
      rw [← hcursor] at hfewer
      obtain ⟨w, hw, hend⟩ := ih row.ordinary_createdAt
        (Nat.lt_of_lt_of_le hfewer (Nat.le_of_lt_succ hreads))
      exact ⟨_, outcome_walkFor_of_some reads hpage hnext hw, hend⟩

/-- **A walk never ends** if the reader sees an ancient row: every page shows something, and the
next page is asked for with an instant that lies behind the row again. -/
theorem walk_unfinished_of_ancient {row : Row}
    (hrow : row ∈ f.store.visibleRows kinds (f.graph.followees uid policy.followeeLimit) uid)
    (hancient : row.Ancient) (reads : ℕ) :
    ∃ w, (f.walkFor reads ⟨uid, some before, some limit⟩).outcome = .ok w ∧
      w.ending = .unfinished := by
  induction reads generalizing before with
  | zero => exact ⟨_, rfl, rfl⟩
  | succ reads ih =>
    obtain ⟨page, hpage⟩ : ∃ page, (f.service.timeline f.collaborators {}
        ⟨uid, some before, some limit⟩).outcome = .ok page := exists_page hkinds hlimit hcalm hd
    have hne := page_ne_nil hkinds hpage hrow (hancient.lt_cursorMillis hb.1) hlimit.1
    have hnext := Page.nextBefore?_of_ne_nil hne
    obtain ⟨last, -, -, hlast⟩ := exists_row_of_nextBefore hkinds hpage hnext
    obtain ⟨w, hw, hend⟩ := ih (hlast ▸ last.ordinary_createdAt)
    exact ⟨_, outcome_walkFor_of_some reads hpage hnext hw, hend⟩

end Walks

/-- **A walk makes progress as long as the reader sees no ancient row**, whatever else is stored. A
page shows only what is earlier than its cursor, apart from ancient rows, which are shown as of the
beginning of 1970. Where there is none, the next page is asked for with an earlier instant, and the
walk ends with an empty page. Where there is one, no number of reads is enough. -/
theorem walk_ends_or_never {f : Feed} {policy : FanoutPolicy} {kinds : List Kind}
    (context : CallContext) (uid : ℤ) {before : Instant} {limit : ℕ}
    (hkinds : f.service.registry.handlers.Perm (kinds.map (Handler.ofKind policy)))
    (hb : before.Ordinary) (hlimit : 1 ≤ limit ∧ limit ≤ f.service.settings.maxPageSize) :
    let rows := f.store.visibleRows kinds (f.graph.followees uid policy.followeeLimit) uid
    let request : Service.Request := ⟨uid, some before, some limit⟩
    (∀ page, (f.timeline context request).outcome = .ok page →
      (∀ e ∈ page.events, e.createdAt < before ∨
        e.createdAt = .epoch ∧ ∃ row ∈ rows, row.Ancient ∧ row.toEvent = e) ∧
      ((∀ row ∈ rows, ¬row.Ancient) → ∀ next, page.nextBefore? = some next → next < before)) ∧
    (f.disturbances = [] → 0 < f.service.settings.readTimeout →
      ((∀ row ∈ rows, ¬row.Ancient) → ∀ reads > rows.length,
        ∃ w, (f.walkFor reads request).outcome = .ok w ∧ w.ending = .complete) ∧
      ((∃ row ∈ rows, row.Ancient) → ∀ reads,
        ∃ w, (f.walkFor reads request).outcome = .ok w ∧ w.ending = .unfinished)) := by
  intro rows request
  refine ⟨fun page hpage => ⟨fun e he => ?_, fun hnone next hnext => ?_⟩, fun hcalm hd => ⟨?_, ?_⟩⟩
  · rw [outcome_timeline] at hpage
    obtain ⟨row, hrow, hlt, rfl⟩ := exists_row_of_mem_page hkinds hpage he
    by_cases hancient : row.Ancient
    · exact Or.inr ⟨hancient.createdAt_eq, row, hrow, hancient, rfl⟩
    · exact Or.inl (Row.createdAt_lt_of_not_ancient hancient hb hlt)
  · rw [outcome_timeline] at hpage
    obtain ⟨row, hrow, hlt, rfl⟩ := exists_row_of_nextBefore hkinds hpage hnext
    exact Row.createdAt_lt_of_not_ancient (hnone row hrow) hb hlt
  · intro hnone reads hreads
    exact walk_complete_of_not_ancient uid hkinds hb hlimit hcalm hd hnone
      ((List.length_filter_le _ _).trans_lt hreads)
  · rintro ⟨row, hrow, hancient⟩ reads
    exact walk_unfinished_of_ancient uid hkinds hb hlimit hcalm hd hrow hancient reads

/-- A feed in which the user 1 has a row from in front of the calendar, and the user 2 one from
behind it. -/
def legacy : Feed where
  now := ⟨1700000000, 0⟩
  graph := .empty
  store :=
    { inbox := [⟨1, 1, "like_event", "\x7b\x7d", -9223372036854775808⟩,
        ⟨2, 1, "like_event", "\x7b\x7d", 5⟩, ⟨3, 2, "like_event", "\x7b\x7d", 9223372036854775807⟩,
        ⟨4, 2, "like_event", "\x7b\x7d", 5⟩]
      outbox := []
      issued := 4 }
  service := .standard {}
  disturbances := []
  journal := []

theorem handlers_legacy :
    legacy.service.registry.handlers.Perm (Kind.all.map (Handler.ofKind {})) := .refl _

/-- The user 2 comes to an end, and the user 1 does not. -/
theorem walk_ends_or_never_legacy :
    (∃ w, (legacy.walkFor 3 ⟨2, some legacy.now, some 1⟩).outcome = .ok w ∧
      w.ending = .complete) ∧
    ∀ reads, ∃ w, (legacy.walkFor reads ⟨1, some legacy.now, some 1⟩).outcome = .ok w ∧
      w.ending = .unfinished := by
  have hnow : legacy.now.Ordinary := by decide
  have hlimit : 1 ≤ 1 ∧ 1 ≤ legacy.service.settings.maxPageSize := by decide
  have htwo := (walk_ends_or_never {} 2 handlers_legacy hnow hlimit).2 rfl (by decide)
  have hone := (walk_ends_or_never {} 1 handlers_legacy hnow hlimit).2 rfl (by decide)
  exact ⟨htwo.1 (by decide) 3 (by decide), hone.2 (by decide)⟩

/-- **A reader of an ancient row is stuck.** A page before the beginning of 1970 shows an event that
is not before it, so the next page is asked for with the same instant, and the walk never ends. -/
theorem walk_stuck :
    (∃ page, (legacy.timeline {} ⟨1, some .epoch, some 10⟩).outcome = .ok page ∧
      (∃ e ∈ page.events, ¬e.createdAt < .epoch) ∧ page.nextBefore? = some .epoch) ∧
    ∀ reads, ∃ w, (legacy.walkFor reads ⟨1, some .epoch, some 10⟩).outcome = .ok w ∧
      w.ending = .unfinished := by
  have hlimit : 1 ≤ 10 ∧ 10 ≤ legacy.service.settings.maxPageSize := by decide
  -- of the two rows of the user, only the ancient one lies before the cursor
  have hepoch : ∀ row ∈ legacy.store.visibleRows Kind.all (legacy.graph.followees 1 200) 1,
      row.ctime < Instant.epoch.cursorMillis → row.createdAt = .epoch := by decide
  obtain ⟨row, hrow, hancient⟩ : ∃ row ∈ legacy.store.visibleRows Kind.all
      (legacy.graph.followees 1 200) 1, row.Ancient := by decide
  have hpage : ∃ page, (legacy.service.timeline legacy.collaborators {}
      ⟨1, some .epoch, some 10⟩).outcome = .ok page :=
    exists_page handlers_legacy hlimit rfl (by decide)
  obtain ⟨page, hpage⟩ := hpage
  have hne := page_ne_nil handlers_legacy hpage hrow
    (hancient.lt_cursorMillis Instant.ordinary_epoch.1) hlimit.1
  have hnext := Page.nextBefore?_of_ne_nil hne
  have hlast : (page.events.getLast hne).createdAt = .epoch := by
    obtain ⟨last, hmem, hlt, hlast⟩ := exists_row_of_nextBefore handlers_legacy hpage hnext
    exact hlast ▸ hepoch last hmem hlt
  refine ⟨⟨page, (outcome_timeline _ _ _).trans hpage,
    ⟨_, List.getLast_mem hne, hlast ▸ Instant.lt_irrefl _⟩, hlast ▸ hnext⟩, fun reads => ?_⟩
  exact walk_unfinished_of_ancient 1 handlers_legacy Instant.ordinary_epoch hlimit rfl (by decide)
    hrow hancient reads

end Feed

end ActivityFeed
