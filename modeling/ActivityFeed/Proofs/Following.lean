import ActivityFeed.Graph
import ActivityFeed.Policy
import Mathlib.Data.Int.Notation
import Mathlib.Data.List.Basic

/-!
# Following, and the order of the indexes

An index that grows by insertion stays in its order. This is what makes the answers of the graph
reliable: the users in an answer stand in ascending order (`ActivityFeed.Index.members_ascending`),
so nobody stands twice in it, and a limit that is not below the number of followers leaves nobody
out (`ActivityFeed.Graph.followers_eq_members`). A smaller limit leaves out exactly those before
whom as many stand as the limit allows (`ActivityFeed.Graph.mem_followers_iff`).

A graph is changed by one follow or unfollow at a time (`ActivityFeed.Change`), and stays in its
order through any number of them (`ActivityFeed.Graph.Ordered.after`).
-/

namespace ActivityFeed

namespace Index

variable {p q r : ℤ × ℤ} {i : Index}

theorem Before.trans (hpq : Before p q) (hqr : Before q r) : Before p r := by
  simp only [Before] at *
  omega

theorem Before.irrefl (p : ℤ × ℤ) : ¬Before p p := by
  simp only [Before]
  omega

theorem before_of_not_before (h : ¬Before p q) (hne : p ≠ q) : Before q p := by
  rw [Ne, Prod.ext_iff] at hne
  simp only [Before] at *
  omega

/-- **The index is in its order**, with every pair once. -/
def Descending (i : Index) : Prop := i.Pairwise Before

theorem Descending.insert (h : i.Descending) (p : ℤ × ℤ) : (i.insert p).Descending := by
  induction i with
  | nil => exact List.pairwise_singleton _ p
  | cons q rest ih =>
    obtain ⟨hq, hrest⟩ := List.pairwise_cons.mp h
    rw [Index.insert]
    split
    · rename_i hbefore
      refine List.pairwise_cons.mpr ⟨fun r hr => ?_, h⟩
      rcases List.mem_cons.mp hr with rfl | hr
      · exact hbefore
      · exact hbefore.trans (hq r hr)
    · split
      · exact h
      · rename_i hnot hne
        refine List.pairwise_cons.mpr ⟨fun r hr => ?_, ih hrest⟩
        rcases mem_insert.mp hr with rfl | hr
        · exact before_of_not_before hnot hne
        · exact hq r hr

theorem Descending.erase (h : i.Descending) (p : ℤ × ℤ) : (i.erase p).Descending :=
  h.filter _

/-- **The members of an owner stand in ascending order.** -/
theorem members_ascending (h : i.Descending) (owner : ℤ) :
    (i.members owner).Pairwise (· < ·) := by
  rw [members, List.pairwise_reverse, List.pairwise_map]
  refine (h.filter _).imp_of_mem fun {p q} hp hq hpq => ?_
  have hp := of_decide_eq_true (List.mem_filter.mp hp).2
  have hq := of_decide_eq_true (List.mem_filter.mp hq).2
  simp only [Before] at hpq
  omega

theorem members_nodup (h : i.Descending) (owner : ℤ) : (i.members owner).Nodup :=
  (members_ascending h owner).imp fun h => Int.ne_of_lt h

/-- **A list in ascending order is cut behind those who have few before them.** -/
theorem mem_take_iff_countP_lt {l : List ℤ} (h : l.Pairwise (· < ·)) {m : ℤ} (hm : m ∈ l) {n : ℕ} :
    m ∈ l.take n ↔ l.countP (fun k => decide (k < m)) < n := by
  induction l generalizing n with
  | nil => cases hm
  | cons k l ih =>
    obtain ⟨hk, hl⟩ := List.pairwise_cons.mp h
    cases n with
    | zero => simp
    | succ n =>
      rw [List.take_succ_cons]
      rcases List.mem_cons.mp hm with rfl | hm
      · -- nobody stands before the first
        have hnone : (m :: l).countP (fun k => decide (k < m)) = 0 := by
          refine List.countP_eq_zero.mpr fun k hkm => ?_
          rcases List.mem_cons.mp hkm with rfl | hkm
          · simp
          · have hlt := hk k hkm
            simp only [decide_eq_true_eq]
            omega
        exact iff_of_true List.mem_cons_self (hnone ▸ n.succ_pos)
      · have hne : m ≠ k := (Int.ne_of_lt (hk m hm)).symm
        rw [List.countP_cons_of_pos (p := fun k => decide (k < m)) (decide_eq_true (hk m hm)),
          Nat.add_lt_add_iff_right, ← ih hl hm, List.mem_cons, or_iff_right hne]

end Index

namespace Graph

variable {g : Graph}

/-- **Both indexes are in their order.** -/
structure Ordered (g : Graph) : Prop where
  /-- The followers of each user are. -/
  byFollowee : g.byFollowee.Descending
  /-- The users whom each user follows are. -/
  byFollower : g.byFollower.Descending

theorem ordered_empty : empty.Ordered := ⟨.nil, .nil⟩

theorem Ordered.follow (h : g.Ordered) (follower followee : ℤ) :
    (g.follow follower followee).Ordered :=
  ⟨h.byFollowee.insert _, h.byFollower.insert _⟩

theorem Ordered.unfollow (h : g.Ordered) (follower followee : ℤ) :
    (g.unfollow follower followee).Ordered :=
  ⟨h.byFollowee.erase _, h.byFollower.erase _⟩

/-- A limit that is not below the number of followers leaves nobody out. -/
theorem followers_eq_members {uid : ℤ} {limit : ℕ} (h : g.followerCount uid ≤ limit) :
    g.followers uid limit = g.byFollowee.members uid :=
  List.take_of_length_le h

/-- **Pushing reaches every follower**, whatever the limits of the policy. -/
theorem followers_pushFetch (g : Graph) (policy : FanoutPolicy) (uid : ℤ) :
    g.followers uid (policy.pushFetch (g.followerCount uid)) = g.byFollowee.members uid :=
  followers_eq_members (Int.ofNat_le.mp (policy.le_pushFetch _))

/-- **A limit keeps the smallest numbers**: a follower is left out exactly if as many others as are
asked for have smaller ones. -/
theorem mem_followers_iff (h : g.Ordered) {uid follower : ℤ}
    (hf : follower ∈ g.byFollowee.members uid) {limit : ℕ} :
    follower ∈ g.followers uid limit ↔
      (g.byFollowee.members uid).countP (fun m => decide (m < follower)) < limit :=
  Index.mem_take_iff_countP_lt (Index.members_ascending h.byFollowee uid) hf

end Graph

/-! ### Changes -/

/-- A change of the graph. -/
inductive Change where
  /-- The first user follows the second from now on. -/
  | follow (follower followee : ℤ)
  /-- The first user does not follow the second any more. -/
  | unfollow (follower followee : ℤ)
  deriving DecidableEq, Repr

namespace Graph

/-- The graph after a change. -/
def change (g : Graph) : Change → Graph
  | .follow follower followee => g.follow follower followee
  | .unfollow follower followee => g.unfollow follower followee

/-- The graph after some changes. -/
def after (g : Graph) (changes : List Change) : Graph := changes.foldl change g

/-- The first user follows the second, whichever of the two is asked. -/
def Follows (g : Graph) (follower followee : ℤ) : Prop :=
  follower ∈ g.byFollowee.members followee ∧ followee ∈ g.byFollower.members follower

instance (g : Graph) (follower followee : ℤ) : Decidable (g.Follows follower followee) :=
  inferInstanceAs (Decidable (_ ∧ _))

/-- Changes leave the indexes in their order. -/
theorem Ordered.after {g : Graph} (h : g.Ordered) (changes : List Change) :
    (g.after changes).Ordered := by
  induction changes generalizing g with
  | nil => exact h
  | cons c changes ih =>
    cases c with
    | follow follower followee => exact ih (h.follow follower followee)
    | unfollow follower followee => exact ih (h.unfollow follower followee)

end Graph

end ActivityFeed
