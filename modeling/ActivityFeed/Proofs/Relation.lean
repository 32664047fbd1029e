import ActivityFeed.Proofs.Following
import Mathlib.Data.Set.Card

/-!
# The one relation behind the two indexes

A graph keeps two indexes, and every change goes into both. After any changes whatever they hold one
relation, and this relation can be read off the changes: somebody follows a user if the last change
about the two was a follow (`ActivityFeed.Change.LastlyFollows`). Following twice, not following
somebody who was not followed and following oneself are changes like the others.

Both indexes satisfy the same equation for one change, and whatever satisfies it is that relation
(`ActivityFeed.Graph.holds_after`). So all answers are described by the relation
(`ActivityFeed.Graph.answers_after`): the lists are the smallest numbers that stand in it, as many
as the limit allows (`ActivityFeed.IsSmallest`), and the count is the number of all of them.
-/

namespace ActivityFeed

/-! ### The last change about two users -/

namespace Change

/-- The users whom a change is about: who follows, and who is followed. -/
def pair : Change → ℤ × ℤ
  | .follow follower followee => (follower, followee)
  | .unfollow follower followee => (follower, followee)

/-- **The last change about the two users was a follow.** -/
def LastlyFollows (changes : List Change) (follower followee : ℤ) : Prop :=
  ∃ earlier later, changes = earlier ++ .follow follower followee :: later ∧
    ∀ c ∈ later, c.pair ≠ (follower, followee)

variable {changes : List Change} {c : Change} {a b : ℤ}

theorem not_lastlyFollows_nil : ¬LastlyFollows [] a b := by
  rintro ⟨earlier, later, h, -⟩
  exact List.append_ne_nil_of_right_ne_nil _ (List.cons_ne_nil _ _) h.symm

/-- The change at the end decides if it is about the two users, and otherwise those before it do. -/
theorem lastlyFollows_append_singleton : LastlyFollows (changes ++ [c]) a b ↔
    c = .follow a b ∨ c.pair ≠ (a, b) ∧ LastlyFollows changes a b := by
  constructor
  · rintro ⟨earlier, later, h, hlater⟩
    rcases List.eq_nil_or_concat later with rfl | ⟨later, d, rfl⟩
    · exact .inl (List.append_singleton_inj.mp h).2
    · rw [List.concat_eq_append] at h hlater
      rw [← List.cons_append, ← List.append_assoc] at h
      obtain ⟨hchanges, rfl⟩ := List.append_singleton_inj.mp h
      exact .inr ⟨hlater c (List.mem_append_right _ (List.mem_singleton_self c)), earlier, later,
        hchanges, fun d hd => hlater d (List.mem_append_left _ hd)⟩
  · rintro (rfl | ⟨hc, earlier, later, rfl, hlater⟩)
    · exact ⟨changes, [], rfl, List.forall_mem_nil _⟩
    · refine ⟨earlier, later ++ [c], by rw [List.append_assoc, List.cons_append], fun d hd => ?_⟩
      rcases List.mem_append.mp hd with hd | hd
      · exact hlater d hd
      · rwa [List.mem_singleton.mp hd]

end Change

/-! ### The smallest numbers of a set -/

/-- **The list holds the smallest numbers of the set**, in ascending order, and as many of them as
the limit allows. -/
structure IsSmallest (s : Set ℤ) (limit : ℕ) (l : List ℤ) : Prop where
  /-- The numbers ascend. -/
  ascending : l.Pairwise (· < ·)
  /-- They are in the set. -/
  mem : ∀ x ∈ l, x ∈ s
  /-- A number that is left out is greater than all of them. -/
  least : ∀ x ∈ l, ∀ y ∈ s, y ∉ l → x < y
  /-- There are no more than the limit allows. -/
  length_le : l.length ≤ limit
  /-- Numbers are left out only for the limit. -/
  complete : l.length < limit → ∀ y ∈ s, y ∈ l

/-- The beginning of an ascending list of the whole set. -/
theorem isSmallest_take {s : Set ℤ} {l : List ℤ} (hl : l.Pairwise (· < ·))
    (hs : ∀ x, x ∈ l ↔ x ∈ s) (limit : ℕ) : IsSmallest s limit (l.take limit) where
  ascending := hl.sublist (List.take_sublist limit l)
  mem x hx := (hs x).mp (List.mem_of_mem_take hx)
  least x hx y hy hout := by
    have hsplit : l.take limit ++ l.drop limit = l := List.take_append_drop limit l
    have hmem : y ∈ l.take limit ++ l.drop limit := hsplit.symm ▸ (hs y).mpr hy
    rw [← hsplit, List.pairwise_append] at hl
    exact hl.2.2 x hx y ((List.mem_append.mp hmem).resolve_left hout)
  length_le := List.length_take_le limit l
  complete hlt y hy := by
    rw [List.length_take] at hlt
    rw [List.take_of_length_le (by omega)]
    exact (hs y).mpr hy

/-- The size of a set that is listed without repetition. -/
theorem encard_of_nodup {s : Set ℤ} {l : List ℤ} (hl : l.Nodup) (hs : ∀ x, x ∈ l ↔ x ∈ s) :
    s.encard = l.length := by
  have hcoe : s = l.toFinset := by
    ext x
    rw [List.coe_toFinset, Set.mem_ofPred_eq, hs]
  rw [hcoe, Set.encard_coe_eq_coe_finsetCard, List.toFinset_card_of_nodup hl]

namespace Graph

open Change

variable {g : Graph} {c : Change} {a b : ℤ}

/-! ### One change, and all of them -/

/-- A change puts its own pair into the index by the followed user or takes it out, and leaves all
other pairs there. -/
theorem mem_byFollowee_change : (b, a) ∈ (g.change c).byFollowee ↔
    c = .follow a b ∨ c.pair ≠ (a, b) ∧ (b, a) ∈ g.byFollowee := by
  cases c with
  | follow x y =>
    simp only [change, follow, Index.mem_insert, pair, Change.follow.injEq, Prod.mk.injEq, ne_eq]
    grind
  | unfollow x y =>
    simp only [change, unfollow, Index.mem_erase, pair, Prod.mk.injEq, ne_eq, reduceCtorEq,
      false_or]
    grind

/-- So it does to the index by the user who follows. -/
theorem mem_byFollower_change : (a, b) ∈ (g.change c).byFollower ↔
    c = .follow a b ∨ c.pair ≠ (a, b) ∧ (a, b) ∈ g.byFollower := by
  cases c with
  | follow x y =>
    simp only [change, follow, Index.mem_insert, pair, Change.follow.injEq, Prod.mk.injEq, ne_eq]
    grind
  | unfollow x y =>
    simp only [change, unfollow, Index.mem_erase, pair, Prod.mk.injEq, ne_eq, reduceCtorEq,
      false_or]
    grind

theorem after_append_singleton (g : Graph) (changes : List Change) (c : Change) :
    g.after (changes ++ [c]) = (g.after changes).change c :=
  List.foldl_concat ..

/-- **What every change treats as the indexes do is the relation of the last changes.** -/
theorem holds_after {R : Graph → Prop} (hempty : ¬R empty)
    (hchange : ∀ g c, R (g.change c) ↔ c = .follow a b ∨ c.pair ≠ (a, b) ∧ R g)
    (changes : List Change) : R (empty.after changes) ↔ LastlyFollows changes a b := by
  induction changes using List.reverseRecOn with
  | nil => exact iff_of_false hempty not_lastlyFollows_nil
  | append_singleton changes c ih =>
    rw [after_append_singleton, hchange, lastlyFollows_append_singleton, ih]

theorem mem_byFollowee_after (changes : List Change) :
    (b, a) ∈ (empty.after changes).byFollowee ↔ LastlyFollows changes a b :=
  holds_after (R := fun g => (b, a) ∈ g.byFollowee) List.not_mem_nil
    (fun _ _ => mem_byFollowee_change) changes

theorem mem_byFollower_after (changes : List Change) :
    (a, b) ∈ (empty.after changes).byFollower ↔ LastlyFollows changes a b :=
  holds_after (R := fun g => (a, b) ∈ g.byFollower) List.not_mem_nil
    (fun _ _ => mem_byFollower_change) changes

/-! ### The answers -/

theorem exists_mem_take {l : List ℤ} {x : ℤ} : (∃ limit, x ∈ l.take limit) ↔ x ∈ l :=
  ⟨fun ⟨_, h⟩ => List.mem_of_mem_take h, fun h => ⟨l.length, by rwa [List.take_length]⟩⟩

/-- **The indexes are one relation after any changes, and all answers come from it.** -/
theorem answers_after (changes : List Change) (a b : ℤ) :
    ((∃ limit, a ∈ (empty.after changes).followers b limit) ↔
        ∃ limit, b ∈ (empty.after changes).followees a limit) ∧
      ((∃ limit, a ∈ (empty.after changes).followers b limit) ↔ LastlyFollows changes a b) ∧
      ((empty.after changes).followerCount b : ℕ∞) = {x | LastlyFollows changes x b}.encard ∧
      (∀ limit, IsSmallest {x | LastlyFollows changes x b} limit
        ((empty.after changes).followers b limit)) ∧
      (∀ limit, IsSmallest {x | LastlyFollows changes a x} limit
        ((empty.after changes).followees a limit)) ∧
      ∀ limit, (empty.after changes).followerCount b ≤ limit →
        ∀ x, x ∈ (empty.after changes).followers b limit ↔ LastlyFollows changes x b := by
  have hordered : (empty.after changes).Ordered := ordered_empty.after changes
  have hfollowers : ∀ x, x ∈ (empty.after changes).byFollowee.members b ↔
      LastlyFollows changes x b := fun x => Index.mem_members.trans (mem_byFollowee_after changes)
  have hfollowees : ∀ x, x ∈ (empty.after changes).byFollower.members a ↔
      LastlyFollows changes a x := fun x => Index.mem_members.trans (mem_byFollower_after changes)
  have hfirst := exists_mem_take.trans (hfollowers a)
  refine ⟨hfirst.trans (exists_mem_take.trans (hfollowees b)).symm, hfirst, ?_, ?_, ?_, ?_⟩
  · exact (encard_of_nodup (Index.members_nodup hordered.byFollowee b) hfollowers).symm
  · exact isSmallest_take (Index.members_ascending hordered.byFollowee b) hfollowers
  · exact isSmallest_take (Index.members_ascending hordered.byFollower a) hfollowees
  · intro limit hlimit x
    rw [followers_eq_members hlimit, hfollowers]

/-- Changes in which everything unusual happens: somebody follows twice, somebody is not followed
any more who never was, somebody comes back, and somebody follows himself. -/
def unusual : List Change :=
  [.unfollow 2 9, .follow 5 9, .follow 5 9, .follow 9 9, .follow 3 9, .unfollow 3 9, .follow (-4) 9,
    .follow 7 9, .unfollow 7 9, .follow 7 9, .follow 9 5]

/-- Nobody is counted twice, and a limit that is large enough leaves out nobody. -/
theorem answers_after_unusual :
    (empty.after unusual).followerCount 9 ≤ 4 ∧
      (∀ x, x ∈ (empty.after unusual).followers 9 4 ↔ LastlyFollows unusual x 9) ∧
      (empty.after unusual).followers 9 4 = [-4, 5, 7, 9] ∧
      (empty.after unusual).followers 9 2 = [-4, 5] ∧
      (empty.after unusual).followees 9 2 = [5, 9] ∧
      LastlyFollows unusual 7 9 ∧ ¬LastlyFollows unusual 3 9 := by
  have hcount : (empty.after unusual).followerCount 9 ≤ 4 := by decide
  obtain ⟨-, -, -, -, -, hall⟩ := answers_after unusual 7 9
  have hmem := hall 4 hcount
  exact ⟨hcount, hmem, by decide, by decide, by decide, (hmem 7).mp (by decide),
    fun h => absurd ((hmem 3).mpr h) (by decide)⟩

end Graph

end ActivityFeed
