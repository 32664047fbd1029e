import ActivityFeed.Proofs.Atomicity
import ActivityFeed.Proofs.Delivery
import Mathlib.Data.List.Count
import Mathlib.Data.List.Infix

/-!
# Followers who come and go meanwhile

While an article is created, other tasks may change who follows whom. The handler looks at the graph
twice: it counts the followers, and if they are few it asks for the list of them, at most as many as
it counted or as the policy allows. In between it looks at the clock. Between the two looks, and
before and behind them, there may be any changes, and each look may take its time
(`ActivityFeed.Meanwhile`).

The limit of the list is meant to cover all followers, and it does so for those who were counted.
When others come before the list is made, it may be cut, and a cut list keeps the smallest numbers.
So an article that was pushed may not reach somebody who followed the author all the time
(`ActivityFeed.Meanwhile.Cuts`). This is the only way in which it can be missed: everybody else who
follows the author during the call finds the article, whatever the others do
(`ActivityFeed.Feed.article_on_page`). Nobody is cut off if nothing changes between the two looks
(`ActivityFeed.Meanwhile.not_cuts_of_untilList_eq_nil`).

An article that was kept by its author is looked for in the outboxes of those whom the reader
follows when reading. So the reader of such an article is one who still follows the author then.
-/

namespace ActivityFeed

/-! ### What others do -/

/-- What other tasks do to the graph while an article is created, how long the handler waits for its
answers, and what the clock shows when it looks. -/
structure Meanwhile where
  /-- The changes up to the time at which the followers are counted. -/
  untilCount : List Change := []
  /-- The changes from then on up to the time at which they are listed. -/
  untilList : List Change := []
  /-- The changes from then on up to the end of the call. -/
  untilEnd : List Change := []
  /-- How long counting takes. -/
  countDelay : ℕ := 0
  /-- How long listing takes. -/
  listDelay : ℕ := 0
  /-- What the clock shows when the handler looks at it, which it does once, after counting. -/
  now : Instant
  deriving DecidableEq, Repr

namespace Meanwhile

/-- All changes during the call. -/
def changes (m : Meanwhile) : List Change := m.untilCount ++ m.untilList ++ m.untilEnd

/-- The graph when the followers are counted. -/
def atCount (m : Meanwhile) (g : Graph) : Graph := g.after m.untilCount

/-- The graph when the followers are listed. -/
def atList (m : Meanwhile) (g : Graph) : Graph := g.after (m.untilCount ++ m.untilList)

/-- The answers that the handler gets. -/
def replies (m : Meanwhile) (g : Graph) (s : Store) : (q : Query) → Reply q.Answer
  | .followerCount uid => ⟨m.countDelay, .ok (Feed.answer (m.atCount g) s (.followerCount uid))⟩
  | .followers uid limit => ⟨m.listDelay, .ok (Feed.answer (m.atList g) s (.followers uid limit))⟩
  | q => ⟨0, .ok (Feed.answer g s q)⟩

/-- The article is kept by its author, who was counted to have many followers. -/
def Keeps (m : Meanwhile) (policy : FanoutPolicy) (g : Graph) (author : ℤ) : Prop :=
  policy.pulls ((m.atCount g).followerCount author) = true

/-- **The list is cut before the article reaches a follower**: the author was not counted to have
many followers, and when they were listed, as many as were asked for stood before this one. -/
def Cuts (m : Meanwhile) (policy : FanoutPolicy) (g : Graph) (author reader : ℤ) : Prop :=
  ¬m.Keeps policy g author ∧ policy.pushFetch ((m.atCount g).followerCount author) ≤
    ((m.atList g).byFollowee.members author).countP (fun k => decide (k < reader))

instance (m : Meanwhile) (policy : FanoutPolicy) (g : Graph) (author : ℤ) :
    Decidable (m.Keeps policy g author) :=
  inferInstanceAs (Decidable (_ = true))

instance (m : Meanwhile) (policy : FanoutPolicy) (g : Graph) (author reader : ℤ) :
    Decidable (m.Cuts policy g author reader) :=
  inferInstanceAs (Decidable (_ ∧ _))

/-- **Nobody is cut off if nothing changes between counting and listing**: the limit is not below
the number of those who were counted. -/
theorem not_cuts_of_untilList_eq_nil {m : Meanwhile} (h : m.untilList = []) (policy : FanoutPolicy)
    {g : Graph} {author reader : ℤ}
    (hreader : reader ∈ (m.atList g).byFollowee.members author) :
    ¬m.Cuts policy g author reader := by
  rintro ⟨-, hcut⟩
  have hsame : m.atList g = m.atCount g := by rw [atList, h, List.append_nil, atCount]
  rw [hsame] at hcut hreader
  -- the reader stands in the list, and not before itself
  have hfew : ((m.atCount g).byFollowee.members author).countP (fun k => decide (k < reader)) <
      (m.atCount g).followerCount author :=
    List.countP_lt_length_iff.mpr ⟨reader, hreader, by simp⟩
  have hlimit := policy.le_pushFetch ((m.atCount g).followerCount author)
  omega

end Meanwhile

/-! ### The article -/

/-- What is decided about an article that comes to something. -/
theorem Decided.article_cases {policy : FanoutPolicy} {replies : (q : Query) → Reply q.Answer}
    {bag : Bag} {time : ℕ} {m : Mailbox} {owners : List ℤ} {author : ℤ}
    (h : Decided policy replies bag .article time (.ok (m, owners)))
    (hauthor : bag.int64 Kind.article.key = .ok author) :
    ∃ count, (replies (.followerCount author)).answer = .ok count ∧
      (policy.pulls count = true ∧ m = .outbox ∧ owners = [author] ∨
        ¬policy.pulls count = true ∧ m = .inbox ∧
          (replies (.followers author (policy.pushFetch count))).answer = .ok owners) := by
  cases h with
  | told other field => exact absurd rfl other
  | kept field counted many =>
    obtain rfl := Except.ok.inj (hauthor.symm.trans field)
    exact ⟨_, counted, .inl ⟨decide_eq_true many, rfl, rfl⟩⟩
  | pushed field counted few listed =>
    obtain rfl := Except.ok.inj (hauthor.symm.trans field)
    exact ⟨_, counted, .inr ⟨by simpa [FanoutPolicy.pulls] using few, rfl, listed⟩⟩

namespace Feed

variable {f : Feed} {policy : FanoutPolicy} {m : Meanwhile} {context : CallContext} {tag : String}
  {bag : Bag} {author reader : ℤ}

/-- Creates an event while other tasks change the graph. The time of the event is what the clock
shows when the handler looks. -/
def createMeanwhile (f : Feed) (m : Meanwhile) (context : CallContext) (tag : String) (bag : Bag) :
    Result (Failure ServiceError) Unit :=
  let r := (f.setClock m.now).createAmid (m.replies f.graph f.store) context tag bag
  { r with feed := { r.feed with graph := f.graph.after m.changes } }

/-- A feed stays regular while an event is created and the graph changes. -/
theorem Regular.createMeanwhile (h : f.Regular policy Kind.all) (hclock : m.now.Ordinary)
    (context : CallContext) (tag : String) (bag : Bag) :
    (f.createMeanwhile m context tag bag).feed.Regular policy Kind.all := by
  obtain ⟨hnow, -, hservice, hcalm⟩ := concludeDelivery_frame (f.setClock m.now)
    (f.service.create ((f.setClock m.now).amid (m.replies f.graph f.store)) context tag bag)
  refine ⟨?_, ?_, h.graph.after m.changes, ?_, hcalm.trans h.calm⟩
  · exact hservice ▸ h.handlers
  · exact hnow ▸ hclock
  · change ((f.setClock m.now).createAmid (m.replies f.graph f.store) context
      tag bag).feed.store.Sound
    rcases createAmid_cases (f := f.setClock m.now) h.handlers (m.replies f.graph f.store) context
      tag bag with
      ⟨k, -, -, time, mailbox, owners, -, -, -, d, -, hevents, hstore, -⟩ | ⟨e, -, -, hstore, -⟩
    · rw [hstore, hevents]
      refine h.store.insert _ fun r hr => ?_
      obtain ⟨e, he, rfl⟩ := List.mem_map.mp hr
      obtain ⟨uid, -, rfl⟩ := List.mem_map.mp he
      exact hclock.milliInCalendar
    · rw [hstore]
      exact h.store

/-- The call leaves the service as it was. -/
theorem service_createMeanwhile (f : Feed) (m : Meanwhile) (context : CallContext) (tag : String)
    (bag : Bag) : (f.createMeanwhile m context tag bag).feed.service = f.service :=
  (concludeDelivery_frame (f.setClock m.now)
    (f.service.create ((f.setClock m.now).amid (m.replies f.graph f.store)) context tag bag)).2.2.1

/-- **The event of the article**, as it is read. -/
structure IsArticle (f : Feed) (m : Meanwhile) (context : CallContext) (bag : Bag)
    (e : FeedEvent) : Prop where
  /-- It is an article. -/
  tag : e.tag = Kind.article.tag
  /-- It is of the millisecond of the clock. -/
  createdAt : e.createdAt = .ofMillis m.now.millis
  /-- Its number was not given out before the call. -/
  new : (f.store.issued : ℤ) < e.id
  /-- Its number was given out by the call. -/
  issued : e.id ≤ ((f.createMeanwhile m context Kind.article.tag bag).feed.store.issued : ℤ)
  /-- It has the bag of the article. -/
  bag : e.bag = bag

/-- **Where an article goes** when the call succeeds: to the outbox of its author, or to the inboxes
of the followers in the list. -/
theorem exists_owners_of_createMeanwhile (h : f.Regular policy Kind.all)
    (hauthor : bag.int64 Kind.article.key = .ok author)
    (hok : (f.createMeanwhile m context Kind.article.tag bag).outcome = .ok ()) :
    ∃ mailbox owners,
      (m.Keeps policy f.graph author ∧ mailbox = .outbox ∧ owners = [author] ∨
        ¬m.Keeps policy f.graph author ∧ mailbox = .inbox ∧
          owners = (m.atList f.graph).followers author
            (policy.pushFetch ((m.atCount f.graph).followerCount author))) ∧
      (f.createMeanwhile m context Kind.article.tag bag).feed.store = f.store.insert mailbox
        ((owners.map ((f.setClock m.now).newEvent .article bag)).map Row.ofEvent) := by
  rcases createAmid_cases (f := f.setClock m.now) h.handlers (m.replies f.graph f.store) context
    Kind.article.tag bag with
    ⟨k, -, htag, time, mailbox, owners, hdecided, -, -, d, rfl, hevents, hstore, -⟩ |
    ⟨e, -, herror, -⟩
  · obtain rfl : Kind.article = k := Kind.tag_injective htag
    refine ⟨d.mailbox, owners, ?_, hevents ▸ hstore⟩
    obtain ⟨count, hcount, hway⟩ := hdecided.article_cases hauthor
    obtain rfl := Except.ok.inj hcount
    exact hway.imp_right fun ⟨hpulls, hm, howners⟩ => ⟨hpulls, hm, (Except.ok.inj howners).symm⟩
  · cases hok.symm.trans herror

/-- **Of the articles that are stored for some owners, a user sees those that show.** -/
theorem exists_isArticle_iff (h : f.Regular policy Kind.all) (hclock : m.now.Ordinary)
    {mailbox : Mailbox} {owners followees : List ℤ}
    (hstore : (f.createMeanwhile m context Kind.article.tag bag).feed.store = f.store.insert mailbox
      ((owners.map ((f.setClock m.now).newEvent .article bag)).map Row.ofEvent)) :
    (∃ e, f.IsArticle m context bag e ∧
        e ∈ (f.createMeanwhile m context Kind.article.tag bag).feed.store.visibleEvents Kind.all
          followees reader) ↔
      ∃ owner ∈ owners, Store.shows Kind.all followees reader mailbox
        ((f.setClock m.now).newEvent .article bag owner) = true := by
  have hordinary : ∀ e ∈ owners.map ((f.setClock m.now).newEvent .article bag),
      e.createdAt.Ordinary := by
    intro e he
    obtain ⟨uid, -, rfl⟩ := List.mem_map.mp he
    exact hclock
  have hissued : (f.createMeanwhile m context Kind.article.tag bag).feed.store.issued =
      f.store.issued + owners.length := by
    rw [hstore, Store.insert_eq, List.length_map, List.length_map]
  have hseen : ∀ e, e ∈ (f.createMeanwhile m context Kind.article.tag
      bag).feed.store.visibleEvents Kind.all followees reader ↔
        e ∈ f.store.visibleEvents Kind.all followees reader ∨
          e ∈ (Store.stored f.store.issued (owners.map
            ((f.setClock m.now).newEvent .article bag))).filter
              (Store.shows Kind.all followees reader mailbox) := by
    intro e
    rw [hstore, (Store.visibleEvents_insert_perm f.store mailbox hordinary).mem_iff,
      List.mem_append]
  constructor
  · rintro ⟨e, he, hmem⟩
    rcases (hseen e).mp hmem with hold | hnew
    · -- what was there before has another number
      have hid := h.store.id_le_of_mem_visibleEvents hold
      have hlt := he.new
      omega
    · obtain ⟨hstored, hshows⟩ := List.mem_filter.mp hnew
      obtain ⟨e', he', id, rfl⟩ := Store.exists_eq_stored hstored
      obtain ⟨owner, howner, rfl⟩ := List.mem_map.mp he'
      rw [Store.shows_stored] at hshows
      exact ⟨owner, howner, hshows⟩
  · rintro ⟨owner, howner, hshows⟩
    obtain ⟨id, hlt, hle, hstored⟩ := Store.exists_mem_stored
      (List.mem_map_of_mem (f := (f.setClock m.now).newEvent .article bag) howner) f.store.issued
    refine ⟨_, ⟨rfl, rfl, Int.ofNat_lt.mpr hlt, ?_, rfl⟩,
      (hseen _).mpr (.inr (List.mem_filter.mpr ⟨hstored, ?_⟩))⟩
    · rw [hissued]
      exact Int.ofNat_le.mpr (by rwa [List.length_map] at hle)
    · rwa [Store.shows_stored]

/-- **Whom an article reaches** among the followers of its author: everybody who still follows the
author when reading, if it was kept, and everybody in the list, if it was pushed. -/
theorem exists_isArticle_visible_iff (h : f.Regular policy Kind.all) (hclock : m.now.Ordinary)
    (hauthor : bag.int64 Kind.article.key = .ok author)
    (hok : (f.createMeanwhile m context Kind.article.tag bag).outcome = .ok ())
    (hlisted : reader ∈ (m.atList f.graph).byFollowee.members author) {followees : List ℤ} :
    (∃ e, f.IsArticle m context bag e ∧
        e ∈ (f.createMeanwhile m context Kind.article.tag bag).feed.store.visibleEvents Kind.all
          followees reader) ↔
      (m.Keeps policy f.graph author → author ∈ followees) ∧
        ¬m.Cuts policy f.graph author reader := by
  obtain ⟨mailbox, owners, hway, hstore⟩ := exists_owners_of_createMeanwhile h hauthor hok
  rw [exists_isArticle_iff h hclock hstore]
  rcases hway with ⟨hkeeps, rfl, rfl⟩ | ⟨hpushes, rfl, rfl⟩
  · -- the article was kept, and the reader looks into the outboxes of the followees
    simp [shows_newEvent_outbox, hkeeps, Meanwhile.Cuts]
  · -- the article was pushed, and the reader looks into the own inbox
    simp only [shows_newEvent_inbox, beq_iff_eq, exists_eq_right, hpushes, false_imp_iff, true_and,
      Meanwhile.Cuts, not_false_eq_true, not_le]
    exact Graph.mem_followers_iff (h.graph.after _) hlisted

/-- **An article is missed by those whom a cut list leaves out, and by nobody else.** An article is
created while other tasks change the graph, and the call succeeds. Then anything may happen, and at
last somebody who followed the author from the beginning of the call to its end, and who follows no
more users than the policy allows, reads a page that lies behind the time of the article and is
large enough for all that is to be seen. If the article was kept, the reader is one who still
follows the author. The article stands on the page exactly if the list of followers was not cut
before the reader. -/
theorem article_on_page (h : f.Regular policy Kind.all) (hclock : m.now.Ordinary)
    (hauthor : bag.int64 Kind.article.key = .ok author)
    (hfollows : ∀ changes, changes <+: m.changes → (f.graph.after changes).Follows reader author)
    (hok : (f.createMeanwhile m context Kind.article.tag bag).outcome = .ok ()) {more : List Action}
    (hmore : ∀ a ∈ more, a.Ordinary) {g : Feed}
    (hg : g = (f.createMeanwhile m context Kind.article.tag bag).feed.run more)
    (hstill : m.Keeps policy f.graph author → g.graph.Follows reader author)
    (hfollowees : (g.graph.byFollower.members reader).length ≤ policy.followeeLimit)
    (readContext : CallContext)
    (htime : 0 < readContext.timeout.getD f.service.settings.readTimeout) {before : Instant}
    (hleap : ¬before.InLeapSecond) (hbefore : .ofMillis m.now.millis < before) {limit : ℕ}
    (hlimit : 1 ≤ limit ∧ limit ≤ f.service.settings.maxPageSize)
    (hlarge : (g.visible policy Kind.all reader before).length ≤ limit) :
    ∃ page, (g.timeline readContext ⟨reader, some before, some limit⟩).outcome = .ok page ∧
      ((∃ e ∈ page.events, f.IsArticle m context bag e) ↔
        ¬m.Cuts policy f.graph author reader) := by
  have hcall := h.createMeanwhile hclock context Kind.article.tag bag
  have hread : g.Regular policy Kind.all := hg ▸ hcall.run hmore
  have hservice : g.service = f.service := by
    rw [hg, service_run, service_createMeanwhile]
  refine ⟨_, hread.outcome_page readContext reader hleap (hservice ▸ hlimit) (hservice ▸ htime), ?_⟩
  rw [Option.getD_some, List.take_of_length_le hlarge]
  -- the reader was in the graph when the list was made, for that was during the call
  have hlisted : reader ∈ (m.atList f.graph).byFollowee.members author :=
    (hfollows _ (List.prefix_append _ _)).1
  have hlooks : m.Keeps policy f.graph author →
      author ∈ g.graph.followees reader policy.followeeLimit := by
    intro hkeeps
    rw [Graph.followees, List.take_of_length_le hfollowees]
    exact (hstill hkeeps).2
  -- the number of the article tells that it was there before the run
  have honPage : ∀ e, f.IsArticle m context bag e →
      (e ∈ g.visible policy Kind.all reader before ↔
        e ∈ (f.createMeanwhile m context Kind.article.tag bag).feed.store.visibleEvents Kind.all
          (g.graph.followees reader policy.followeeLimit) reader) := by
    intro e he
    rw [mem_visible_iff hread.store.toReadable, and_iff_left (he.createdAt ▸ hbefore), hg]
    exact mem_visibleEvents_run_iff hcall hmore he.issued
  calc (∃ e ∈ g.visible policy Kind.all reader before, f.IsArticle m context bag e)
      ↔ ∃ e, f.IsArticle m context bag e ∧
          e ∈ (f.createMeanwhile m context Kind.article.tag bag).feed.store.visibleEvents Kind.all
            (g.graph.followees reader policy.followeeLimit) reader :=
        exists_congr fun e => and_comm.trans (and_congr_right (honPage e))
    _ ↔ _ := exists_isArticle_visible_iff h hclock hauthor hok hlisted
    _ ↔ _ := and_iff_right hlooks

/-- A feed in which one user follows another, and some policy is in use. -/
def oneFollower (policy : FanoutPolicy) : Feed :=
  (start ⟨.standard policy, {}⟩ ⟨5, 1999999⟩).follow 9 1

theorem regular_oneFollower (policy : FanoutPolicy) :
    (oneFollower policy).Regular policy Kind.all :=
  (regular_start policy {} (by decide)).act (a := .follow 9 1) trivial

/-- Others come and go while the author 1 is served. The follower 9 stays, and is the second of two
in the list. -/
def comeAndGo : Meanwhile where
  untilCount := [.follow 5 1]
  untilList := [.follow 7 1, .unfollow 5 1]
  untilEnd := [.follow 3 1]
  countDelay := 10
  listDelay := 20
  now := ⟨5, 11999999⟩

/-- The follower 9 goes away after the call, and the clock goes back. -/
def afterwards : List Action :=
  [.unfollow 9 1, .setClock ⟨-3, 0⟩, .create {} "like_event" (.ofList [("liked", "9")])]

theorem article_on_page_comeAndGo :
    ∃ page e, ((((oneFollower ⟨2, 200, 2⟩).createMeanwhile comeAndGo {} Kind.article.tag
        (.ofList [("uid", "1")])).feed.run afterwards).timeline {}
          ⟨9, some ⟨6, 0⟩, some 200⟩).outcome = .ok page ∧
      e ∈ page.events ∧
        (oneFollower ⟨2, 200, 2⟩).IsArticle comeAndGo {} (.ofList [("uid", "1")]) e := by
  have hfollows : ∀ changes ∈ comeAndGo.changes.inits,
      ((oneFollower ⟨2, 200, 2⟩).graph.after changes).Follows 9 1 := by decide
  have hpushes : ¬comeAndGo.Keeps ⟨2, 200, 2⟩ (oneFollower ⟨2, 200, 2⟩).graph 1 := by decide
  have hlarge := (Store.length_timeline_le (((oneFollower ⟨2, 200, 2⟩).createMeanwhile comeAndGo {}
    Kind.article.tag (.ofList [("uid", "1")])).feed.run afterwards).store Kind.all [] 9
      ⟨6, 0⟩).trans (by decide +kernel : _ ≤ 200)
  obtain ⟨page, hpage, hreaches⟩ := article_on_page (regular_oneFollower ⟨2, 200, 2⟩)
    (m := comeAndGo) (by decide) rfl
    (fun changes h => hfollows changes ((List.mem_inits _ _).mpr h)) rfl
    (by decide : ∀ a ∈ afterwards, a.Ordinary) rfl (fun hkeeps => absurd hkeeps hpushes)
    (by decide +kernel) {} (by decide) (by decide) (by decide) (by decide) hlarge
  obtain ⟨e, he, harticle⟩ := hreaches.mpr (by decide)
  exact ⟨page, e, hpage, he, harticle⟩

/-- **An article is missed** by somebody who follows its author all the time, when reading as well:
the call succeeds, and afterwards the reader, who follows few users, finds nothing on the largest
page. -/
structure Missed (f : Feed) (policy : FanoutPolicy) (m : Meanwhile) (bag : Bag) (author reader : ℤ)
    (more : List Action) (before : Instant) : Prop where
  /-- The policy is a valid one. -/
  valid : policy.validate = .ok ()
  /-- The feed is in order. -/
  regular : f.Regular policy Kind.all
  /-- The bag names the author. -/
  named : bag.int64 Kind.article.key = .ok author
  /-- The reader follows the author from the beginning of the call to its end. -/
  follows : ∀ changes, changes <+: m.changes → (f.graph.after changes).Follows reader author
  /-- The call succeeds. -/
  created : (f.createMeanwhile m {} Kind.article.tag bag).outcome = .ok ()
  /-- The reader still follows the author when the page is read. -/
  stays : ((f.createMeanwhile m {} Kind.article.tag bag).feed.run more).graph.Follows reader author
  /-- The reader follows no more users than the policy allows. -/
  followees : ((((f.createMeanwhile m {} Kind.article.tag bag).feed.run
    more).graph.byFollower.members reader).length ≤ policy.followeeLimit)
  /-- The cursor lies behind the article. -/
  later : m.now < before
  /-- The page is empty. -/
  page : (((f.createMeanwhile m {} Kind.article.tag bag).feed.run more).timeline {}
    ⟨reader, some before, some f.service.settings.maxPageSize⟩).outcome = .ok ⟨[]⟩

/-- The user 5 comes between counting and listing. -/
def comeBetween : Meanwhile where
  untilList := [.follow 5 1]
  now := ⟨5, 1999999⟩

/-- **A list may be cut before somebody who was there all the time.** The user 9 is the only
follower who is counted. Then the user 5 comes, the list is full with one, and the article goes to
the user 5 alone. -/
theorem article_missed :
    (oneFollower ⟨1, 200, 1⟩).Missed ⟨1, 200, 1⟩ comeBetween (.ofList [("uid", "1")]) 1 9 []
        ⟨6, 0⟩ ∧
      ((oneFollower ⟨1, 200, 1⟩).createMeanwhile comeBetween {} Kind.article.tag
        (.ofList [("uid", "1")])).feed.store.inbox.map Row.uid = [5] := by
  have hregular := regular_oneFollower ⟨1, 200, 1⟩
  have hfollows : ∀ changes ∈ comeBetween.changes.inits,
      ((oneFollower ⟨1, 200, 1⟩).graph.after changes).Follows 9 1 := by decide
  have hread := (hregular.createMeanwhile (m := comeBetween) (by decide) {} Kind.article.tag
    (.ofList [("uid", "1")])).run (List.forall_mem_nil _)
  refine ⟨⟨rfl, hregular, rfl, fun changes h => hfollows changes ((List.mem_inits _ _).mpr h), rfl,
    by decide +kernel, by decide +kernel, by decide, ?_⟩, by decide +kernel⟩
  exact page_eq_nil hread (by decide +kernel) (by decide) (by decide) (by decide)

end Feed

end ActivityFeed
