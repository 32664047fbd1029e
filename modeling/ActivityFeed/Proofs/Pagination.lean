import ActivityFeed.Proofs.Reading
import ActivityFeed.Walk

/-!
# Walking through a timeline

A walk asks for the next page with the instant of the last event of the page before. The order of
events, however, is by instant and number, so the cursor says less than the place where the page
ended: the events of the same instant that stand behind that place are on no page.

* `ActivityFeed.pages` – the pages of a timeline, cut off one after the other;
* `ActivityFeed.not_mem_pages_iff` – what is on no page;
* `ActivityFeed.eventsOn_pages_eq_iff` – when everything is on some page: no page may end
  between two events of the same instant (`ActivityFeed.SplitsNoInstant`);
* `ActivityFeed.Feed.outcome_walkFor` – a walk finds the pages of the plain timeline.

Each page is followed by a strictly shorter timeline, and this is the measure that ends the walk.
-/

namespace ActivityFeed

section Pages

variable {limit : ℕ} {events : List FeedEvent} {last e : FeedEvent}

/-! ### The end of a page -/

/-- The events that are earlier than one of them. -/
def earlierThan (last : FeedEvent) (events : List FeedEvent) : List FeedEvent :=
  events.filter fun e => decide (e.createdAt < last.createdAt)

theorem mem_earlierThan :
    e ∈ earlierThan last events ↔ e ∈ events ∧ e.createdAt < last.createdAt := by
  rw [earlierThan, List.mem_filter, decide_eq_true_iff]

theorem mem_of_getLast?_take (h : (events.take limit).getLast? = some last) : last ∈ events :=
  List.mem_of_mem_take (List.mem_of_getLast? h)

/-- What is left after a page is shorter. -/
theorem length_earlierThan_lt (h : (events.take limit).getLast? = some last) :
    (earlierThan last events).length < events.length :=
  List.length_filter_lt_length_iff_exists.mpr
    ⟨last, mem_of_getLast?_take h, by simpa using Instant.lt_irrefl last.createdAt⟩

/-- On a page, nothing stands behind the last event. -/
theorem eq_or_newer_of_mem_take (hsorted : events.Pairwise FeedEvent.Newer)
    (h : (events.take limit).getLast? = some last) (he : e ∈ events.take limit) :
    e = last ∨ e.Newer last := by
  obtain ⟨init, hinit⟩ := List.getLast?_eq_some_iff.mp h
  have hpage := hsorted.sublist (List.take_sublist limit events)
  rw [hinit, List.pairwise_append] at hpage
  rw [hinit, List.mem_append, List.mem_singleton] at he
  exact he.symm.imp_right fun he => hpage.2.2 e he last (List.mem_singleton_self last)

/-- Whatever is not on a page stands behind its last event. -/
theorem newer_of_mem_drop (hsorted : events.Pairwise FeedEvent.Newer)
    (h : (events.take limit).getLast? = some last) (he : e ∈ events.drop limit) :
    last.Newer e := by
  rw [← List.take_append_drop limit events, List.pairwise_append] at hsorted
  exact hsorted.2.2 last (List.mem_of_getLast? h) e he

/-- Nothing on a page is earlier than its last event. -/
theorem earlierThan_drop (hsorted : events.Pairwise FeedEvent.Newer)
    (h : (events.take limit).getLast? = some last) :
    earlierThan last (events.drop limit) = earlierThan last events := by
  conv_rhs => rw [earlierThan, ← List.take_append_drop limit events, List.filter_append]
  rw [earlierThan, List.self_eq_append_left, List.filter_eq_nil_iff]
  intro e he hlt
  rcases eq_or_newer_of_mem_take hsorted h he with rfl | hnewer
  · exact Instant.lt_irrefl _ (of_decide_eq_true hlt)
  · exact hnewer.not_lt (of_decide_eq_true hlt)

/-! ### Pages -/

/-- **The pages of a timeline**: the first events, and then the pages of what is earlier than the
last of these. -/
def pages (limit : ℕ) (events : List FeedEvent) : List Page :=
  match _h : (events.take limit).getLast? with
  | none => []
  | some last => ⟨events.take limit⟩ :: pages limit (earlierThan last events)
termination_by events.length
decreasing_by exact length_earlierThan_lt _h

theorem pages_of_none (h : (events.take limit).getLast? = none) : pages limit events = [] := by
  rw [pages]
  split
  · rfl
  · simp_all

theorem pages_of_some (h : (events.take limit).getLast? = some last) :
    pages limit events = ⟨events.take limit⟩ :: pages limit (earlierThan last events) := by
  rw [pages]
  split <;> simp_all

/-- The events of some pages, one page after the other. -/
def eventsOn (ps : List Page) : List FeedEvent := ps.flatMap Page.events

theorem eventsOn_pages_of_some (h : (events.take limit).getLast? = some last) :
    eventsOn (pages limit events) =
      events.take limit ++ eventsOn (pages limit (earlierThan last events)) := by
  rw [pages_of_some h, eventsOn, List.flatMap_cons, eventsOn]

/-- There are not more pages than events. -/
theorem length_pages_le (limit : ℕ) (events : List FeedEvent) :
    (pages limit events).length ≤ events.length := by
  induction events using pages.induct limit with
  | case1 events h => rw [pages_of_none h]; exact Nat.zero_le _
  | case2 events last h ih =>
    rw [pages_of_some h, List.length_cons]
    exact ih.trans_lt (length_earlierThan_lt h)

/-- **Pages repeat nothing and change no order.** -/
theorem eventsOn_pages_sublist (limit : ℕ) (hsorted : events.Pairwise FeedEvent.Newer) :
    (eventsOn (pages limit events)).Sublist events := by
  induction events using pages.induct limit with
  | case1 events h => rw [pages_of_none h]; exact List.nil_sublist _
  | case2 events last h ih =>
    rw [eventsOn_pages_of_some h]
    conv_rhs => rw [← List.take_append_drop limit events]
    refine (List.Sublist.refl _).append ((ih (hsorted.filter _)).trans ?_)
    rw [← earlierThan_drop hsorted h]
    exact List.filter_sublist

/-! ### What is on no page -/

/-- **The event is passed over by a page**: it is of the same instant as the last event of the page
and stands behind it. -/
def Page.PassesOver (p : Page) (e : FeedEvent) : Prop :=
  ∃ last, p.events.getLast? = some last ∧ e.createdAt = last.createdAt ∧ e.id < last.id

theorem passesOver_take_iff (h : (events.take limit).getLast? = some last) :
    Page.PassesOver ⟨events.take limit⟩ e ↔ e.createdAt = last.createdAt ∧ e.id < last.id := by
  refine ⟨fun ⟨last', h', he⟩ => ?_, fun he => ⟨last, h, he⟩⟩
  rwa [Option.some.inj (h.symm.trans h')]

/-- A page passes over something that is not earlier than something on the page. -/
theorem exists_mem_of_passesOver {p : Page} (h : p ∈ pages limit events) (hp : p.PassesOver e) :
    ∃ last ∈ events, e.createdAt = last.createdAt := by
  induction events using pages.induct limit with
  | case1 events hnone => simp [pages_of_none hnone] at h
  | case2 events last hlast ih =>
    rw [pages_of_some hlast, List.mem_cons] at h
    rcases h with rfl | h
    · exact ⟨last, mem_of_getLast?_take hlast, ((passesOver_take_iff hlast).mp hp).1⟩
    · obtain ⟨last', hmem, he⟩ := ih h
      exact ⟨last', (mem_earlierThan.mp hmem).1, he⟩

/-- No page passes over what is on the first page. -/
theorem not_passesOver_of_mem_take (hsorted : events.Pairwise FeedEvent.Newer)
    (hlast : (events.take limit).getLast? = some last) (he : e ∈ events.take limit) {p : Page}
    (hp : p ∈ pages limit events) : ¬p.PassesOver e := by
  intro hpass
  have hend := eq_or_newer_of_mem_take hsorted hlast he
  rw [pages_of_some hlast, List.mem_cons] at hp
  rcases hp with rfl | hp
  · obtain ⟨ht, hid⟩ := (passesOver_take_iff hlast).mp hpass
    rcases hend with rfl | hlt | ⟨-, hid'⟩
    · exact lt_irrefl _ hid
    · exact Instant.lt_irrefl _ (ht ▸ hlt)
    · exact lt_asymm hid hid'
  · -- a later page passes over what is of its own time, and that is earlier
    obtain ⟨last', hmem, ht⟩ := exists_mem_of_passesOver hp hpass
    have hlt : e.createdAt < last.createdAt := ht ▸ (mem_earlierThan.mp hmem).2
    rcases hend with rfl | hnewer
    · exact Instant.lt_irrefl _ hlt
    · exact hnewer.not_lt hlt

/-- **What is on no page**: what some page passes over. -/
theorem not_mem_pages_iff (hsorted : events.Pairwise FeedEvent.Newer) (hlimit : 1 ≤ limit)
    (he : e ∈ events) :
    e ∉ eventsOn (pages limit events) ↔ ∃ p ∈ pages limit events, p.PassesOver e := by
  induction events using pages.induct limit with
  | case1 events hnone =>
    rw [List.getLast?_eq_none_iff, List.take_eq_nil_iff] at hnone
    rcases hnone with rfl | rfl
    · omega
    · simp at he
  | case2 events last hlast ih =>
    have hpages := eventsOn_pages_of_some hlast
    by_cases hpage : e ∈ events.take limit
    · refine iff_of_false (fun h => h (hpages ▸ List.mem_append_left _ hpage)) ?_
      rintro ⟨p, hp, hpass⟩
      exact not_passesOver_of_mem_take hsorted hlast hpage hp hpass
    · have hdrop : e ∈ events.drop limit := by
        rw [← List.take_append_drop limit events, List.mem_append] at he
        exact he.resolve_left hpage
      rw [hpages, List.mem_append, not_or, and_iff_right hpage, pages_of_some hlast,
        List.exists_mem_cons_iff, passesOver_take_iff hlast]
      -- below the page the event is earlier and goes on to the next pages, or it is passed over
      rcases newer_of_mem_drop hsorted hlast hdrop with hlt | ⟨ht, hid⟩
      · rw [ih (hsorted.filter _) (mem_earlierThan.mpr ⟨he, hlt⟩)]
        exact (or_iff_right fun h => Instant.lt_irrefl _ (h.1 ▸ hlt)).symm
      · refine iff_of_true (fun h => ?_) (Or.inl ⟨ht.symm, hid⟩)
        have hmem := (eventsOn_pages_sublist limit (hsorted.filter _)).mem h
        exact Instant.lt_irrefl _ (ht ▸ (mem_earlierThan.mp hmem).2)

/-! ### When nothing is passed over -/

/-- **No page ends between two events of one instant**, if every page is full. -/
def SplitsNoInstant (limit : ℕ) (events : List FeedEvent) : Prop :=
  ∀ n a b, limit ∣ n + 1 → events[n]? = some a → events[n + 1]? = some b →
    a.createdAt ≠ b.createdAt

theorem splitsNoInstant_iff (hlimit : 1 ≤ limit)
    (hlast : (events.take limit).getLast? = some last) :
    SplitsNoInstant limit events ↔
      (∀ b, events[limit]? = some b → last.createdAt ≠ b.createdAt) ∧
        SplitsNoInstant limit (events.drop limit) := by
  -- a full page ends with the event before the next page
  have hend : ∀ b, events[limit]? = some b → events[limit - 1]? = some last := by
    intro b hb
    have hlength : (events.take limit).length = limit :=
      List.length_take_of_le (List.getElem?_eq_some_iff.mp hb).1.le
    rw [← hlast, List.getLast?_eq_getElem?, hlength, List.getElem?_take_of_lt (by omega)]
  constructor
  · intro h
    refine ⟨fun b hb => h (limit - 1) last b ?_ (hend b hb) ?_, fun n a b hn ha hb => ?_⟩
    · exact ⟨1, by rw [Nat.sub_add_cancel hlimit, Nat.mul_one]⟩
    · rwa [Nat.sub_add_cancel hlimit]
    · rw [List.getElem?_drop] at ha hb
      exact h (limit + n) a b ((Nat.dvd_add_right (Nat.dvd_refl limit)).mpr hn) ha hb
  · rintro ⟨hfirst, hrest⟩ n a b hn ha hb
    rcases Nat.lt_or_ge n limit with hlt | hge
    · have hn : limit = n + 1 := Nat.le_antisymm (Nat.le_of_dvd (by omega) hn) hlt
      subst hn
      obtain rfl : last = a := Option.some.inj ((hend b hb).symm.trans ha)
      exact hfirst b hb
    · obtain ⟨m, rfl⟩ := Nat.exists_eq_add_of_le hge
      refine hrest m a b ((Nat.dvd_add_right (Nat.dvd_refl limit)).mp hn) ?_ ?_ <;>
        rwa [List.getElem?_drop]

/-- Everything below a page is earlier, if the first event below it is. -/
theorem earlierThan_eq_drop_iff (hsorted : events.Pairwise FeedEvent.Newer)
    (hlast : (events.take limit).getLast? = some last) :
    earlierThan last events = events.drop limit ↔
      ∀ b, events[limit]? = some b → last.createdAt ≠ b.createdAt := by
  rw [← earlierThan_drop hsorted hlast, earlierThan, List.filter_eq_self]
  constructor
  · intro h b hb ht
    have hmem : b ∈ events.drop limit := List.mem_of_getElem? (i := 0) (by rwa [List.getElem?_drop])
    exact Instant.lt_irrefl _ (ht ▸ of_decide_eq_true (h b hmem))
  · intro h e he
    obtain ⟨b, rest, hdrop⟩ := List.exists_cons_of_ne_nil (List.ne_nil_of_mem he)
    have hb : events[limit]? = some b := by
      rw [← Nat.add_zero limit, ← List.getElem?_drop, hdrop, List.getElem?_cons_zero]
    have hlt : b.createdAt < last.createdAt :=
      (newer_of_mem_drop hsorted hlast (hdrop ▸ List.mem_cons_self)).resolve_right
        fun htie => h b hb htie.1
    have hbelow := hsorted.sublist (List.drop_sublist limit events)
    rw [hdrop, List.pairwise_cons] at hbelow
    rw [hdrop, List.mem_cons] at he
    rcases he with rfl | he
    · exact decide_eq_true hlt
    · exact decide_eq_true ((hbelow.1 e he).lt_of_lt hlt)

/-- **Everything is on some page exactly if no page ends between two events of one instant.** -/
theorem eventsOn_pages_eq_iff (hsorted : events.Pairwise FeedEvent.Newer) (hlimit : 1 ≤ limit) :
    eventsOn (pages limit events) = events ↔ SplitsNoInstant limit events := by
  induction events using pages.induct limit with
  | case1 events hnone =>
    rw [List.getLast?_eq_none_iff, List.take_eq_nil_iff] at hnone
    rcases hnone with rfl | rfl
    · omega
    · rw [pages_of_none (by rw [List.take_nil, List.getLast?_nil])]
      exact iff_of_true rfl fun n a b _ ha => by simp at ha
  | case2 events last hlast ih =>
    -- the later pages are a part of what is earlier, and that is a part of what is left
    have hparts : eventsOn (pages limit events) = events ↔
        earlierThan last events = events.drop limit ∧
          eventsOn (pages limit (earlierThan last events)) = earlierThan last events := by
      rw [eventsOn_pages_of_some hlast]
      conv_lhs => rhs; rw [← List.take_append_drop limit events]
      rw [List.append_cancel_left_eq]
      have hsub := eventsOn_pages_sublist limit (hsorted.filter
        fun e => decide (e.createdAt < last.createdAt))
      have hrest : (earlierThan last events).Sublist (events.drop limit) :=
        earlierThan_drop hsorted hlast ▸ List.filter_sublist
      constructor
      · intro h
        have heq : earlierThan last events = events.drop limit := hrest.antisymm (h ▸ hsub)
        exact ⟨heq, h.trans heq.symm⟩
      · rintro ⟨heq, h⟩
        exact h.trans heq
    rw [hparts, splitsNoInstant_iff hlimit hlast, ← earlierThan_eq_drop_iff hsorted hlast,
      ih (hsorted.filter _)]
    exact and_congr_right fun h => by rw [h]

end Pages

/-! ### Walks -/

/-- The events that a walk came past, in the order in which they were read. -/
def Walk.events (w : Walk) : List FeedEvent := eventsOn w.pages

namespace Feed

section Steps

variable {f : Feed} {r : Service.Request} {page : Page} (reads : ℕ)

/-- A walk ends where a page cannot be read. -/
theorem outcome_walkFor_of_error {e : ServiceError}
    (h : (f.service.timeline f.collaborators {} r).outcome = .error e) :
    (f.walkFor (reads + 1) r).outcome = .ok ⟨[], .failed e⟩ := by
  rw [walkFor]
  simp only [h]

/-- A walk ends with an empty page. -/
theorem outcome_walkFor_of_none
    (h : (f.service.timeline f.collaborators {} r).outcome = .ok page)
    (hnext : page.nextBefore? = none) :
    (f.walkFor (reads + 1) r).outcome = .ok ⟨[], .complete⟩ := by
  rw [walkFor]
  simp only [h, hnext]

/-- A walk goes on with the instant of the last event of a page. -/
theorem outcome_walkFor_of_some {before : Instant} {w : Walk}
    (h : (f.service.timeline f.collaborators {} r).outcome = .ok page)
    (hnext : page.nextBefore? = some before)
    (hw : (f.walkFor reads { r with before := some before }).outcome = .ok w) :
    (f.walkFor (reads + 1) r).outcome = .ok (w.cons page) := by
  rw [walkFor]
  simp only [h, hnext]
  exact Timed.outcome_bind_eq_ok.mpr ⟨page, h, Timed.outcome_bind_eq_ok.mpr ⟨w, hw, rfl⟩⟩

end Steps

section Reader

variable {f : Feed} {policy : FanoutPolicy} {kinds : List Kind} (uid : ℤ) {before : Instant}
  {limit : ℕ} (hkinds : f.service.registry.handlers.Perm (kinds.map (Handler.ofKind policy)))
  (hs : f.store.Readable) (hb : ¬before.InLeapSecond)
  (hlimit : 1 ≤ limit ∧ limit ≤ f.service.settings.maxPageSize) (hcalm : f.disturbances = [])
  (hd : 0 < f.service.settings.readTimeout)

include hkinds hs hb hlimit hcalm hd

/-- **A walk finds the pages of the plain timeline**, and one read more than there are events is
enough for it. -/
theorem outcome_walkFor {reads : ℕ} (hreads : (f.visible policy kinds uid before).length < reads) :
    (f.walkFor reads ⟨uid, some before, some limit⟩).outcome =
      .ok ⟨pages limit (f.visible policy kinds uid before), .complete⟩ := by
  induction reads generalizing before with
  | zero => exact absurd hreads (Nat.not_lt_zero _)
  | succ reads ih =>
    have hpage := outcome_page {} uid hkinds hs hb hlimit hcalm hd
    cases hlast : ((f.visible policy kinds uid before).take limit).getLast? with
    | none =>
      rw [pages_of_none hlast]
      refine outcome_walkFor_of_none reads hpage ?_
      rw [Page.nextBefore?, hlast, Option.map_none]
    | some last =>
      have hmem := mem_of_getLast?_take hlast
      have hcursor := ((Store.isTimeline_timeline hs before).mem_iff last).mp hmem
      -- the next page is the first page of what is left
      have hrest : earlierThan last (f.visible policy kinds uid before) =
          f.visible policy kinds uid last.createdAt :=
        Store.timeline_filter_lt hs fun t h => Instant.lt_trans h hcursor.2
      have hshorter := length_earlierThan_lt hlast
      rw [hrest] at hshorter
      have hwalk := ih (Store.not_inLeapSecond_of_mem_timeline hs hmem)
        (Nat.lt_of_lt_of_le hshorter (Nat.le_of_lt_succ hreads))
      rw [pages_of_some hlast, hrest]
      refine outcome_walkFor_of_some reads hpage ?_ hwalk
      rw [Page.nextBefore?, hlast, Option.map_some]

/-- A walk to its end finds the pages of the plain timeline. -/
theorem outcome_walk :
    (f.walk ⟨uid, some before, some limit⟩).outcome =
      .ok ⟨pages limit (f.visible policy kinds uid before), .complete⟩ :=
  outcome_walkFor uid hkinds hs hb hlimit hcalm hd
    (Nat.lt_succ_of_le (Store.length_timeline_le f.store kinds _ uid before))

/-- **The exact outcome of a walk.** It ends with an empty page, after one read more than there are
events at most; it comes past no event twice and keeps their order; and it misses an event exactly
if some page passes over it, ending with an event of the same instant and with a larger number. -/
theorem walk_complete :
    let visible := f.visible policy kinds uid before
    ∃ w : Walk,
      (f.walk ⟨uid, some before, some limit⟩).outcome = .ok w ∧
      (∀ reads > visible.length,
        (f.walkFor reads ⟨uid, some before, some limit⟩).outcome = .ok w) ∧
      w.ending = .complete ∧ w.pages.length ≤ visible.length ∧
      w.events.Pairwise FeedEvent.Newer ∧ (∀ e ∈ w.events, e ∈ visible) ∧
      ∀ e ∈ visible, e ∉ w.events ↔
        ∃ p ∈ w.pages, ∃ last, p.events.getLast? = some last ∧ e.createdAt = last.createdAt ∧
          e.id < last.id := by
  intro visible
  have hsorted : visible.Pairwise FeedEvent.Newer := (Store.isTimeline_timeline hs before).sorted
  have hsub := eventsOn_pages_sublist limit hsorted
  refine ⟨⟨pages limit visible, .complete⟩, outcome_walk uid hkinds hs hb hlimit hcalm hd,
    fun reads hreads => ?_, rfl, length_pages_le _ _, hsorted.sublist hsub,
    fun e he => hsub.mem he, fun e he => ?_⟩
  · exact outcome_walkFor uid hkinds hs hb hlimit hcalm hd hreads
  · exact not_mem_pages_iff hsorted hlimit.1 he

end Reader

theorem walk_complete_inherited :
    ∃ w : Walk, (inherited.walk ⟨1, some ⟨0, 9000000⟩, some 2⟩).outcome = .ok w ∧
      w.ending = .complete ∧ w.events.map FeedEvent.id = [1, 9] ∧
      (inherited.visible ⟨4, 1, 10⟩ [.article, .like] 1 ⟨0, 9000000⟩).map FeedEvent.id =
        [1, 9, 8, 7] := by
  have hkinds : inherited.service.registry.handlers.Perm
      ([.article, .like].map (Handler.ofKind ⟨4, 1, 10⟩)) := .swap _ _ _
  have hbefore : ¬(⟨0, 9000000⟩ : Instant).InLeapSecond := by decide
  have hlimit : 1 ≤ 2 ∧ 2 ≤ inherited.service.settings.maxPageSize := by decide
  obtain ⟨w, hw, -, hend, -⟩ := walk_complete 1 hkinds readable_inherited hbefore hlimit rfl
    (by decide)
  have hpages := outcome_walk 1 hkinds readable_inherited hbefore hlimit rfl (by decide)
  have hw' := Except.ok.inj (hw.symm.trans hpages)
  refine ⟨w, hw, hend, ?_, by rw [visible_inherited]; rfl⟩
  rw [hw', visible_inherited, Walk.events]
  rw [pages_of_some rfl, pages_of_none rfl]
  rfl

end Feed

end ActivityFeed
