import ActivityFeed.Proofs.Delivery
import ActivityFeed.Proofs.Pagination

/-!
# When a walk comes past everything

A reader who goes from page to page expects to see what one page would show that is large enough.
This is so exactly if no page ends between two events of the same instant
(`ActivityFeed.Feed.walk_of_run`): the next page is asked for with the instant alone, and the rest
of that instant is never asked for again. Since times are kept in whole milliseconds, two events of
the same instant are nothing unusual, and one run with such events is enough to lose one of them
(`ActivityFeed.Feed.walk_misses_event`).

A page that holds everything ends nowhere (`ActivityFeed.splitsNoInstant_of_length_le`), and events
of different instants are never split (`ActivityFeed.splitsNoInstant_of_pairwise_ne`).
-/

namespace ActivityFeed

variable {limit : ℕ} {events : List FeedEvent}

/-- A page that holds everything ends between no two events. -/
theorem splitsNoInstant_of_length_le (h : events.length ≤ limit) :
    SplitsNoInstant limit events := by
  intro n a b hn _ hb
  have hlt : n + 1 < events.length := (List.getElem?_eq_some_iff.mp hb).1
  exact absurd (Nat.le_of_dvd (Nat.succ_pos n) hn) (by omega)

/-- Events of different instants are never split. -/
theorem splitsNoInstant_of_pairwise_ne
    (h : events.Pairwise fun a b => a.createdAt ≠ b.createdAt) : SplitsNoInstant limit events := by
  intro n a b _ ha hb
  obtain ⟨hn, rfl⟩ := List.getElem?_eq_some_iff.mp ha
  obtain ⟨hn', rfl⟩ := List.getElem?_eq_some_iff.mp hb
  exact List.pairwise_iff_getElem.mp h n (n + 1) hn hn' (Nat.lt_succ_self n)

namespace Feed

/-- **A walk comes past everything exactly if no page ends between two events of one instant.**
After any run from a feed in which nothing had happened, what a user sees before the cursor is one
list, which a page shows that is large enough. A walk with smaller pages ends, and the events on its
pages are that list if and only if none of its pages splits an instant. -/
theorem walk_of_run (policy : FanoutPolicy) (settings : Settings) {now : Instant}
    (hnow : now.Ordinary) {actions : List Action} (hactions : ∀ a ∈ actions, a.Ordinary)
    (viewer : ℤ) {before : Instant} (hbefore : ¬before.InLeapSecond) {limit : ℕ}
    (hlimit : 1 ≤ limit ∧ limit ≤ settings.maxPageSize) (htime : 0 < settings.readTimeout) :
    let first := start ⟨.standard policy, settings⟩ now
    let f := first.run actions
    let seen := (first.postings actions).filterMap
      (·.seenBy policy (f.graph.followees viewer policy.followeeLimit) viewer)
    ∃ (visible : List FeedEvent) (w : Walk),
      visible.Perm (seen.filter fun e => decide (e.createdAt < before)) ∧
      visible.Pairwise FeedEvent.Newer ∧
      (∀ large, 1 ≤ large → large ≤ settings.maxPageSize → visible.length ≤ large →
        (f.timeline {} ⟨viewer, some before, some large⟩).outcome = .ok ⟨visible⟩) ∧
      (f.walk ⟨viewer, some before, some limit⟩).outcome = .ok w ∧ w.ending = .complete ∧
      (w.events = visible ↔ SplitsNoInstant limit visible) := by
  intro first f seen
  have hregular : f.Regular policy Kind.all := (regular_start policy settings hnow).run hactions
  have hservice : f.service = first.service := service_run first actions
  -- the settings are those that the feed was started with
  have hmax : f.service.settings.maxPageSize = settings.maxPageSize := by
    rw [hservice]
    rfl
  have hread : 0 < f.service.settings.readTimeout := hservice ▸ htime
  have hseen : (f.store.visibleEvents Kind.all (f.graph.followees viewer policy.followeeLimit)
      viewer).Perm seen :=
    visibleEvents_run_perm _ viewer (regular_start policy settings hnow) hactions
  have hsorted : (f.visible policy Kind.all viewer before).Pairwise FeedEvent.Newer :=
    (Store.isTimeline_timeline hregular.store.toReadable before).sorted
  refine ⟨f.visible policy Kind.all viewer before,
    _, (newestFirst_perm _).trans (hseen.filter _), hsorted, fun large hone hle hall => ?_,
    outcome_walk viewer hregular.handlers hregular.store.toReadable hbefore (hmax ▸ hlimit)
      hregular.calm hread, rfl, eventsOn_pages_eq_iff hsorted hlimit.1⟩
  have hpage := outcome_page {} viewer hregular.handlers hregular.store.toReadable hbefore
    ⟨hone, hmax ▸ hle⟩ hregular.calm hread
  rwa [outcome_timeline, ← List.take_of_length_le hall]

/-- A run in which the user 1 is liked three times, the last two times at the same instant. -/
def threeLikes : List Action :=
  [.create {} "like_event" (.ofList [("liked", "1")]), .setClock ⟨0, 1000000⟩,
    .create {} "like_event" (.ofList [("liked", "1")]),
    .create {} "like_event" (.ofList [("liked", "1")])]

/-- The feed after this run. -/
def likedThrice : Feed := (start (.standard {}) .epoch).run threeLikes

/-- The three likes as the user 1 sees them. -/
def likes : List FeedEvent :=
  [⟨3, 1, "like_event", ⟨0, 1000000⟩, .ofList [("liked", "1")]⟩,
    ⟨2, 1, "like_event", ⟨0, 1000000⟩, .ofList [("liked", "1")]⟩,
    ⟨1, 1, "like_event", ⟨0, 0⟩, .ofList [("liked", "1")]⟩]

theorem regular_likedThrice : likedThrice.Regular {} Kind.all :=
  (regular_start {} {} (by decide)).run (by decide)

theorem seen_threeLikes :
    ((((start (.standard {}) .epoch).postings threeLikes).filterMap (·.seenBy {} [] 1)).filter
      fun e => decide (e.createdAt < ⟨1, 0⟩)).Perm likes := by
  decide +kernel

theorem newer_likes : likes.Pairwise FeedEvent.Newer := by decide

theorem timeline_likedThrice : likedThrice.store.timeline Kind.all [] 1 ⟨1, 0⟩ = likes := by
  have hstart : (start (.standard {}) .epoch).Regular {} Kind.all := regular_start {} {} (by decide)
  have hactions : ∀ a ∈ threeLikes, a.Ordinary := by decide
  have hseen := visibleEvents_run_perm [] 1 hstart hactions
  refine (Store.isTimeline_timeline regular_likedThrice.store.toReadable _).sorted.eq_of_mem_iff
    newer_likes fun e => ?_
  exact ((newestFirst_perm _).trans ((hseen.filter _).trans seen_threeLikes)).mem_iff

/-- A walk through the three likes. -/
theorem outcome_walk_likedThrice {limit : ℕ} (hlimit : 1 ≤ limit ∧ limit ≤ 200) :
    (likedThrice.walk ⟨1, some ⟨1, 0⟩, some limit⟩).outcome =
      .ok ⟨pages limit likes, .complete⟩ := by
  rw [← timeline_likedThrice]
  exact outcome_walk 1 regular_likedThrice.handlers regular_likedThrice.store.toReadable (by decide)
    hlimit rfl (by decide)

theorem walk_of_run_threeLikes :
    ∃ w : Walk, (likedThrice.walk ⟨1, some ⟨1, 0⟩, some 2⟩).outcome = .ok w ∧
      w.ending = .complete ∧ w.events = likes ∧ SplitsNoInstant 2 likes := by
  have hnow : Instant.epoch.Ordinary := by decide
  have hactions : ∀ a ∈ threeLikes, a.Ordinary := by decide
  have hbefore : ¬(⟨1, 0⟩ : Instant).InLeapSecond := by decide
  have hlimit : 1 ≤ 2 ∧ 2 ≤ ({} : Settings).maxPageSize := by decide
  obtain ⟨visible, w, hperm, hsorted, -, hwalk, hend, hiff⟩ :=
    walk_of_run {} {} hnow hactions 1 hbefore hlimit (by decide)
  have hvisible : visible = likes :=
    hsorted.eq_of_mem_iff newer_likes fun _ => (hperm.trans seen_threeLikes).mem_iff
  have hevents : w.events = likes := by
    have hw := Except.ok.inj (hwalk.symm.trans (outcome_walk_likedThrice (by decide)))
    rw [hw, Walk.events]
    rw [pages_of_some rfl, pages_of_some rfl, pages_of_none rfl]
    rfl
  exact ⟨w, hwalk, hend, hevents, hvisible ▸ hiff.mp (hevents.trans hvisible.symm)⟩

/-- **Pages of one event miss an event** where two of them are of the same instant. -/
theorem walk_misses_event :
    (likedThrice.walk ⟨1, some ⟨1, 0⟩, some 1⟩).outcome =
        .ok ⟨[⟨likes.take 1⟩, ⟨likes.drop 2⟩], .complete⟩ ∧
      (likedThrice.timeline {} ⟨1, some ⟨1, 0⟩, some 3⟩).outcome = .ok ⟨likes⟩ := by
  constructor
  · rw [outcome_walk_likedThrice (by decide)]
    rw [pages_of_some rfl, pages_of_some rfl, pages_of_none rfl]
    rfl
  · rw [outcome_timeline]
    refine (outcome_page {} 1 regular_likedThrice.handlers regular_likedThrice.store.toReadable
      (by decide) (by decide) rfl (by decide)).trans ?_
    exact congrArg (fun events => (.ok ⟨events.take 3⟩ : Except ServiceError Page))
      timeline_likedThrice

end Feed

end ActivityFeed
