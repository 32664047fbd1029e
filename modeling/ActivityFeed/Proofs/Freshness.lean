import ActivityFeed.Proofs.Delivery

/-!
# Reading what was just written

Whoever creates an event and then looks at the latest page of a recipient expects to find it there,
even if the clock has hardly moved. The event was stored with the beginning of its millisecond, and
the page shows what is earlier than the present. So the event is there as soon as the present lies
behind that beginning (`ActivityFeed.Instant.ofMillis_millis_lt_iff`), be it in the same
millisecond. This is what cursors are rounded up for.

Only one pair of readings of the clock is left out: both are the same, and they are the beginning of
a millisecond. Then the event is not on the page, as `ActivityFeed.Feed.fresh_event_missed` shows,
and in all other cases it is (`ActivityFeed.Feed.fresh_event_on_page`). A clock with nanoseconds
seldom reads like this. One that counts in milliseconds does so all the time.
-/

namespace ActivityFeed

/-- The beginning of the millisecond of an instant lies before every later instant, and before the
instant itself unless the two are the same. -/
theorem Instant.ofMillis_millis_lt_iff {a b : Instant} (h : a ≤ b) (ha : ¬a.InLeapSecond) :
    ofMillis a.millis < b ↔ ¬(b = a ∧ a.nanos % 1000000 = 0) := by
  rw [le_def] at h
  simp only [InLeapSecond] at ha
  rw [lt_def, Instant.ext_iff]
  simp only [ofMillis, millis]
  omega

namespace Feed

variable {f : Feed} {policy : FanoutPolicy} {viewer : ℤ} {k : Kind} {context : CallContext}
  {tag : String} {bag : Bag} {limit : ℕ}

/-- **Every recipient sees a new event**, whatever happens afterwards. -/
theorem mem_visibleEvents_of_create (h : f.Regular policy Kind.all)
    (hcreated : (f.create context tag bag).outcome = .ok ()) (htag : Kind.ofTag? tag = some k)
    (hviewer : viewer ∈ (f.posting k bag).recipients policy) {more : List Action}
    (hmore : ∀ a ∈ more, a.Ordinary) (followees : List ℤ) :
    (f.posting k bag).event
        (f.store.issued + 1 + ((f.posting k bag).recipients policy).idxOf viewer) viewer ∈
      (f.run (.create context tag bag :: more)).store.visibleEvents Kind.all followees viewer := by
  have hordinary : ∀ a ∈ Action.create context tag bag :: more, a.Ordinary :=
    List.forall_mem_cons.mpr ⟨trivial, hmore⟩
  have hposted : f.posted (.create context tag bag) = some (f.posting k bag) := by
    rw [posted, hcreated, htag]
  refine (visibleEvents_run_perm followees viewer h hordinary).mem_iff.mpr ?_
  refine List.mem_append_right _ (List.mem_filterMap.mpr ⟨f.posting k bag, ?_, if_pos hviewer⟩)
  rw [postings, hposted]
  exact List.mem_append_left _ List.mem_cons_self

/-- **A new event is on the latest page of every recipient**, exactly if the clock has moved since,
or does not stand at the beginning of a millisecond. The event was created with success in a feed
that started with nothing, then anything may have happened, and the page is large enough for all
that the recipient sees. -/
theorem fresh_event_on_page (policy : FanoutPolicy) (settings : Settings) {now : Instant}
    (hnow : now.Ordinary) {actions more : List Action} (hactions : ∀ a ∈ actions, a.Ordinary)
    (hmore : ∀ a ∈ more, a.Ordinary) {f g : Feed}
    (hf : f = (start ⟨.standard policy, settings⟩ now).run actions)
    (hg : g = (f.create context tag bag).feed.run more)
    (hcreated : (f.create context tag bag).outcome = .ok ()) (htag : Kind.ofTag? tag = some k)
    (hviewer : viewer ∈ (f.posting k bag).recipients policy) (hclock : f.now ≤ g.now)
    (readContext : CallContext) (htime : 0 < readContext.timeout.getD settings.readTimeout)
    (hlimit : 1 ≤ limit ∧ limit ≤ settings.maxPageSize)
    (hlarge : (g.visible policy Kind.all viewer g.now).length ≤ limit) :
    ∃ page, (g.timeline readContext ⟨viewer, none, some limit⟩).outcome = .ok page ∧
      ((f.posting k bag).event
          (f.store.issued + 1 + ((f.posting k bag).recipients policy).idxOf viewer) viewer ∈
        page.events ↔ ¬(g.now = f.now ∧ f.now.nanos % 1000000 = 0)) := by
  have hregular : f.Regular policy Kind.all := hf ▸ (regular_start policy settings hnow).run hactions
  have hread : g.Regular policy Kind.all := by
    rw [hg]
    exact Regular.run (hregular.act (a := .create context tag bag) trivial) hmore
  have hservice : g.service.settings = settings := by
    rw [hg, service_run, (create_frame f context tag bag).2.2.1, hf, service_run]
    rfl
  refine ⟨_, hread.outcome_page readContext viewer hread.clock.2 (hservice ▸ hlimit)
    (hservice ▸ htime), ?_⟩
  -- the recipient sees the event, and the page shows it if it lies before the present
  have hsees := mem_visibleEvents_of_create hregular hcreated htag hviewer hmore
    (g.graph.followees viewer policy.followeeLimit)
  rw [show f.run (.create context tag bag :: more) = g from hg.symm] at hsees
  rw [Option.getD_none, List.take_of_length_le hlarge, mem_visible_iff hread.store.toReadable]
  exact (and_iff_right hsees).trans (Instant.ofMillis_millis_lt_iff hclock hregular.clock.2)

/-- A feed in which the user 9 follows the author 1, and the clock stands within a millisecond. -/
def withinMilli : Feed := (start ⟨.standard {}, {}⟩ ⟨5, 1999999⟩).run [.follow 9 1]

/-- An article is pushed to the follower, somebody likes the follower, and the follower reads both
at the same instant. -/
theorem fresh_event_on_page_withinMilli :
    ∃ page, (((withinMilli.create {} "article_event" (.ofList [("uid", "1")])).feed.run
        [.create {} "like_event" (.ofList [("liked", "9")])]).timeline {} ⟨9, none, some 2⟩).outcome =
          .ok page ∧
      ⟨1, 9, "article_event", ⟨5, 1000000⟩, .ofList [("uid", "1")]⟩ ∈ page.events := by
  have hnow : (⟨5, 1999999⟩ : Instant).Ordinary := by decide
  have hactions : ∀ a ∈ [Action.follow 9 1], a.Ordinary := by decide
  have hmore : ∀ a ∈ [Action.create {} "like_event" (.ofList [("liked", "9")])], a.Ordinary := by
    decide
  have hviewer : 9 ∈ (withinMilli.posting .article (.ofList [("uid", "1")])).recipients {} := by
    decide
  have hlimit : 1 ≤ 2 ∧ 2 ≤ ({} : Settings).maxPageSize := by decide
  have hlarge := (Store.length_timeline_le ((withinMilli.create {} "article_event"
    (.ofList [("uid", "1")])).feed.run [.create {} "like_event" (.ofList [("liked", "9")])]).store
      Kind.all [1] 9 ⟨5, 1999999⟩).trans (by decide +kernel : _ ≤ 2)
  obtain ⟨page, hpage, hfresh⟩ := fresh_event_on_page {} {} hnow hactions hmore rfl rfl rfl
    (by decide) hviewer (Or.inr ⟨rfl, Nat.le_refl _⟩) {} (by decide) hlimit hlarge
  exact ⟨page, hpage, hfresh.mpr (by decide)⟩

/-- **A new event may be missed** by a recipient who reads at the same instant: it is stored and
would be seen, and the page has room for it, but it is empty. -/
theorem fresh_event_missed :
    let f := start ⟨.standard {}, {}⟩ ⟨1700000000, 0⟩
    let bag := Bag.ofList [("liked", "1")]
    let g := (f.create {} "like_event" bag).feed
    (f.create {} "like_event" bag).outcome = .ok () ∧
      1 ∈ (f.posting .like bag).recipients {} ∧ f.now ≤ g.now ∧
      (g.store.visibleEvents Kind.all (g.graph.followees 1 200) 1).length < 10 ∧
      (g.timeline {} ⟨1, none, some 10⟩).outcome = .ok ⟨[]⟩ := by
  intro f bag g
  have hregular : g.Regular {} Kind.all :=
    (regular_start {} {} (by decide)).act (a := .create {} "like_event" bag) trivial
  exact ⟨rfl, by decide, Or.inr ⟨rfl, Nat.le_refl _⟩, by decide +kernel,
    page_eq_nil hregular (by decide +kernel) (by decide) (by decide) (by decide)⟩

end Feed

end ActivityFeed
