import ActivityFeed.Bag
import ActivityFeed.Error
import ActivityFeed.Text.Blank

/-!
# Fields

The texts of a bag, read as what they are meant to be. A field that is absent or does not read is an
error that names it. Numbers and truth values may be padded with blanks; the error quotes the text
as it is, with its padding.

* `ActivityFeed.Bag.text`, `ActivityFeed.Bag.int64`, `ActivityFeed.Bag.truthValue`.
-/

namespace ActivityFeed

namespace Bag

/-- The text of a field. -/
def text (b : Bag) (key : String) : Except FeedError String :=
  match b.get? key with
  | some s => .ok s
  | none => .error (.field key .absent)

/-- The text read as an integer of 64 bits. -/
def int64OfText (s : String) : Except FieldFault Int :=
  (Text.readInteger .signed64 (Text.trim s.toList)).mapError (.notInteger s)

/-- The text read as a truth value. -/
def truthValueOfText (s : String) : Except FieldFault Bool :=
  let t := Text.trim s.toList
  if t = "true".toList then .ok true
  else if t = "false".toList then .ok false
  else .error (.notTruthValue s)

/-- The integer of a field. -/
def int64 (b : Bag) (key : String) : Except FeedError Int := do
  let s ← b.text key
  (int64OfText s).mapError (.field key)

/-- The truth value of a field. -/
def truthValue (b : Bag) (key : String) : Except FeedError Bool := do
  let s ← b.text key
  (truthValueOfText s).mapError (.field key)

end Bag

end ActivityFeed
