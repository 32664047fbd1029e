/-!
# Who follows whom

Users follow other users. The relation is asked from both sides, so it is kept twice: once by the
user who is followed and once by the user who follows.

* `ActivityFeed.Index` – pairs of an owner and a member, the greatest first, each once;
* `ActivityFeed.Graph` – the two indexes;
* `ActivityFeed.Graph.follow`, `ActivityFeed.Graph.unfollow` – the two changes;
* `ActivityFeed.Graph.followerCount`, `ActivityFeed.Graph.followers`,
  `ActivityFeed.Graph.followees` – the three questions.

Answers are in ascending order, so a limit keeps the smallest numbers. The indexes are kept in
descending order, because new users have larger numbers and their pairs then go to the front.
-/

namespace ActivityFeed

/-- Pairs of an owner and a member, in descending order. -/
abbrev Index := List (Int × Int)

namespace Index

/-- The order of the pairs: the greater owner first, then the greater member. -/
def Before (p q : Int × Int) : Prop := q.1 < p.1 ∨ p.1 = q.1 ∧ q.2 < p.2

instance (p q : Int × Int) : Decidable (Before p q) := inferInstanceAs (Decidable (_ ∨ _))

/-- The index with a pair more. -/
def insert (p : Int × Int) : Index → Index
  | [] => [p]
  | q :: rest =>
    if Before p q then p :: q :: rest else if p = q then q :: rest else q :: insert p rest

/-- The index without a pair. -/
def erase (p : Int × Int) (i : Index) : Index := i.filter (· ≠ p)

/-- The members of an owner, in ascending order. -/
def members (owner : Int) (i : Index) : List Int := ((i.filter (·.1 = owner)).map (·.2)).reverse

@[simp]
theorem mem_insert {p q : Int × Int} {i : Index} : q ∈ i.insert p ↔ q = p ∨ q ∈ i := by
  induction i with
  | nil => simp [insert]
  | cons r rest ih =>
    simp only [insert]
    split
    · simp
    · split
      · rename_i h
        simp [h]
      · simp [ih, or_left_comm]

@[simp]
theorem mem_erase {p q : Int × Int} {i : Index} : q ∈ i.erase p ↔ q ∈ i ∧ q ≠ p := by
  simp [erase]

@[simp]
theorem mem_members {owner m : Int} {i : Index} : m ∈ i.members owner ↔ (owner, m) ∈ i := by
  simp [members]

end Index

/-- Who follows whom. -/
structure Graph where
  /-- Every followed user with every follower. -/
  byFollowee : Index
  /-- Every follower with every followed user. -/
  byFollower : Index
  deriving DecidableEq, Repr

namespace Graph

/-- Nobody follows anybody. -/
def empty : Graph := ⟨[], []⟩

instance : Inhabited Graph := ⟨empty⟩

/-- The first user follows the second from now on. -/
def follow (g : Graph) (follower followee : Int) : Graph :=
  ⟨g.byFollowee.insert (followee, follower), g.byFollower.insert (follower, followee)⟩

/-- The first user does not follow the second any more. -/
def unfollow (g : Graph) (follower followee : Int) : Graph :=
  ⟨g.byFollowee.erase (followee, follower), g.byFollower.erase (follower, followee)⟩

/-- The number of followers of a user. -/
def followerCount (g : Graph) (uid : Int) : Nat := (g.byFollowee.members uid).length

/-- The followers of a user, at most `limit` of them. -/
def followers (g : Graph) (uid : Int) (limit : Nat) : List Int :=
  (g.byFollowee.members uid).take limit

/-- The users whom a user follows, at most `limit` of them. -/
def followees (g : Graph) (uid : Int) (limit : Nat) : List Int :=
  (g.byFollower.members uid).take limit

example : ((empty.follow 1 2).follow 1 3).followees 1 1 = [2] := by decide

end Graph

end ActivityFeed
