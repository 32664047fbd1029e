import ActivityFeed.Error

/-!
# Pushing and pulling

An article reaches its readers in one of two ways. As long as its author has few followers, it is
pushed: every follower gets a copy at once. Beyond a threshold it is kept once, with its author,
and readers pull it when they look.

* `ActivityFeed.FanoutPolicy` – the threshold and the limits of the two ways;
* `ActivityFeed.FanoutPolicy.pulls` – the decision;
* `ActivityFeed.FanoutPolicy.pushFetch` – how many followers are asked for when pushing;
* `ActivityFeed.FanoutPolicy.validate` – the limit of pushing must not be below the threshold.

The number asked for is at least the number of followers just counted, whatever the limit, so
nobody who was counted is left out.
-/

namespace ActivityFeed

/-- When articles are pushed and how many users are asked for. -/
structure FanoutPolicy where
  /-- The largest number of followers to whom an article is pushed. -/
  threshold : Int := 4
  /-- The number of followed authors whose articles a reader pulls. -/
  followeeLimit : Nat := 200
  /-- The number of followers asked for when pushing, unless there are more. -/
  pushLimit : Nat := 10000
  deriving DecidableEq, Repr, Inhabited

namespace FanoutPolicy

/-- With so many followers the author's articles are kept for pulling. -/
def pulls (p : FanoutPolicy) (followers : Int) : Bool := decide (p.threshold < followers)

/-- The number of followers asked for when pushing to so many. -/
def pushFetch (p : FanoutPolicy) (followers : Int) : Nat := max followers.toNat p.pushLimit

/-- The limit of pushing as a signed number of 64 bits; one that is too large counts as the largest. -/
def signedPushLimit (p : FanoutPolicy) : Int :=
  min (p.pushLimit : Int) (Text.IntegerRange.signed64.above : Int)

/-- Pushing must reach everybody up to the threshold. -/
def validate (p : FanoutPolicy) : Except FeedError Unit :=
  if p.signedPushLimit < p.threshold then
    .error (.field "push_fanout_limit" (.pushLimitBelowThreshold p.pushLimit p.threshold))
  else .ok ()

/-- A threshold of 64 bits is compared with the limit as it is, however large the limit. -/
theorem signedPushLimit_lt_iff {p : FanoutPolicy}
    (h : Text.IntegerRange.signed64.Holds p.threshold) :
    p.signedPushLimit < p.threshold ↔ (p.pushLimit : Int) < p.threshold := by
  obtain ⟨-, h⟩ := h
  unfold signedPushLimit
  omega

theorem validate_eq_ok_iff {p : FanoutPolicy}
    (h : Text.IntegerRange.signed64.Holds p.threshold) :
    p.validate = .ok () ↔ p.threshold ≤ (p.pushLimit : Int) := by
  unfold validate
  split
  · rename_i hlt
    simp only [reduceCtorEq, false_iff]
    exact Int.not_le.2 ((signedPushLimit_lt_iff h).1 hlt)
  · rename_i hlt
    simp only [true_iff]
    exact Int.not_lt.1 fun hlt' => hlt ((signedPushLimit_lt_iff h).2 hlt')

/-- Everybody who was counted is asked for. -/
theorem le_pushFetch (p : FanoutPolicy) (followers : Int) :
    followers ≤ (p.pushFetch followers : Int) := by
  unfold pushFetch
  omega

end FanoutPolicy

end ActivityFeed
