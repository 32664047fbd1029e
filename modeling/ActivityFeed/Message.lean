import ActivityFeed.Bag

/-!
# Messages

Other programs report what happened by messages: the tag of a kind of event and a bag.
-/

namespace ActivityFeed

/-- A message of another program. -/
structure Message where
  /-- The tag of the kind of event. -/
  tag : String
  /-- The fields of the event. -/
  metadata : Bag
  deriving DecidableEq, Repr

end ActivityFeed
