import ActivityFeed.Error

/-!
# Kinds of events

Three kinds of events are known: somebody wrote an article, somebody followed somebody, somebody
liked something. Each has a name and a tag; storage and messages know it by its tag.

* `ActivityFeed.Kind`, with `tag` and `name`;
* `ActivityFeed.Kind.ofTag?`, `ActivityFeed.Kind.ofTag` – the kind of a tag.
-/

namespace ActivityFeed

/-- A kind of event. -/
inductive Kind where
  /-- Somebody wrote an article. -/
  | article
  /-- Somebody followed somebody. -/
  | follow
  /-- Somebody liked something. -/
  | like
  deriving DecidableEq, Repr

namespace Kind

/-- All kinds. -/
def all : List Kind := [.article, .follow, .like]

/-- The tag by which storage and messages know the kind. -/
def tag : Kind → String
  | .article => "article_event"
  | .follow => "follow_event"
  | .like => "like_event"

/-- The name of the kind. -/
def name : Kind → String
  | .article => "Article"
  | .follow => "Follow"
  | .like => "Like"

/-- The kind of a tag. -/
def ofTag? (tag : String) : Option Kind := all.find? (·.tag == tag)

/-- The kind of a tag; a tag of no kind is a type without a handler. -/
def ofTag (tag : String) : Except FeedError Kind :=
  match ofTag? tag with
  | some k => .ok k
  | none => .error (.handlerNotFound tag)

/-- The kind of a name. -/
def ofName? (name : String) : Option Kind := all.find? (·.name == name)

theorem ofTag?_tag (k : Kind) : ofTag? k.tag = some k := by cases k <;> decide

theorem ofName?_name (k : Kind) : ofName? k.name = some k := by cases k <;> decide

theorem eq_tag_of_ofTag? {tag : String} {k : Kind} (h : ofTag? tag = some k) : tag = k.tag := by
  unfold ofTag? at h
  have hk := List.find?_some h
  exact (by simpa using hk : k.tag = tag).symm

end Kind

end ActivityFeed
