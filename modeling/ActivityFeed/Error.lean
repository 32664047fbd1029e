import ActivityFeed.Json.Fault

/-!
# Errors

What can go wrong, by cause. Two layers report errors. The feed itself knows unknown event types,
bad fields, collaborators that are down, damaged texts and a bus that lost messages. The service
around it adds refused requests, deadlines, crashes and bad settings, and tells its callers which
class an error belongs to and whether trying again may help.

* `ActivityFeed.FeedError`, with `message?` and `isRetryable`;
* `ActivityFeed.ServiceError`, with `message?`, `kind` and `isRetryable`.

The wording of a damaged text is not fixed, and the wording of a crash is not shown to callers, so
these two have no message.
-/

namespace ActivityFeed

/-! ### Errors of the feed -/

/-- What a field must satisfy and does not. -/
inductive FieldFault where
  /-- The field is not there. -/
  | absent
  /-- The text is no integer of the wanted range. -/
  | notInteger (text : String) (fault : Text.IntegerFault)
  /-- The text is neither `true` nor `false`. -/
  | notTruthValue (text : String)
  /-- A page must have between one and a largest number of events. -/
  | pageSize (largest size : Nat)
  /-- Pushing must reach everybody up to the threshold. -/
  | pushLimitBelowThreshold (limit : Nat) (threshold : Int)
  /-- Any other reason, in words. -/
  | other (reason : String)
  deriving DecidableEq, Repr

/-- The text of a natural number. -/
def natText (n : Nat) : String := String.ofList (Text.digits n)

/-- The text of an integer. -/
def intText (n : Int) : String := String.ofList (Text.signed n)

/-- The wording of a fault of the field with the given name. -/
def FieldFault.reason (key : String) : FieldFault → String
  | .absent => "field `" ++ key ++ "` is absent"
  | .notInteger text fault => "`" ++ text ++ "` is not an i64: " ++ fault.message
  | .notTruthValue text =>
    "`" ++ text ++ "` is not a bool: provided string was not `true` or `false`"
  | .pageSize largest size =>
    "limit must be within 1..=" ++ natText largest ++ ", got " ++ natText size
  | .pushLimitBelowThreshold limit threshold =>
    "push_fanout_limit " ++ natText limit ++ " is below fanout_threshold " ++ intText threshold
  | .other reason => reason

/-- What the feed depends on. -/
inductive Collaborator where
  /-- The mailboxes. -/
  | store
  /-- Who follows whom. -/
  | socialGraph
  deriving DecidableEq, Repr

/-- The name of a collaborator. -/
def Collaborator.name : Collaborator → String
  | .store => "store"
  | .socialGraph => "social_graph"

/-- What can go wrong in the feed. -/
inductive FeedError where
  /-- No handler is registered for the type. -/
  | handlerNotFound (tag : String)
  /-- A handler is registered for the type already. -/
  | alreadyRegistered (tag : String)
  /-- A field is missing or has a wrong value. -/
  | field (key : String) (fault : FieldFault)
  /-- A collaborator failed. -/
  | unavailable (collaborator : Collaborator) (reason : String)
  /-- A text cannot be read. -/
  | damaged (fault : Json.Fault)
  /-- The bus failed. -/
  | eventBus (reason : String)
  deriving DecidableEq, Repr

namespace FeedError

/-- The error of a reader of the bus who lost messages. -/
def lagged (count : Nat) : FeedError := .eventBus ("subscriber channel lagged by " ++ natText count)

/-- The wording of an error; a damaged text has none. -/
def message? : FeedError → Option String
  | .handlerNotFound tag => some ("handler not found: " ++ tag)
  | .alreadyRegistered tag => some ("handler already registered: " ++ tag)
  | .field key fault =>
    some ("missing or invalid field: key=" ++ key ++ ", reason=" ++ fault.reason key)
  | .unavailable collaborator reason =>
    some ("collaborator unavailable: collaborator=" ++ collaborator.name ++ ", reason=" ++ reason)
  | .damaged _ => none
  | .eventBus reason => some ("event bus error: " ++ reason)

/-- Only a collaborator may do better when asked again. -/
def isRetryable : FeedError → Bool
  | .unavailable _ _ => true
  | _ => false

end FeedError

/-! ### Errors of the service -/

/-- What can go wrong in the service. -/
inductive ServiceError where
  /-- The feed failed. -/
  | domain (error : FeedError)
  /-- The request is refused. -/
  | validation (reason : String)
  /-- The deadline of an operation came first. -/
  | timeout (operation : String) (millis : Nat)
  /-- A task crashed. -/
  | crashed (reason : String)
  /-- A setting is wrong. -/
  | setting (key reason : String)
  deriving DecidableEq, Repr

/-- The classes of errors that callers tell apart. -/
inductive ErrorKind where
  /-- No handler is registered for the type. -/
  | handlerNotFound
  /-- A field is missing or has a wrong value. -/
  | missingOrInvalidField
  /-- A collaborator failed. -/
  | collaboratorUnavailable
  /-- A deadline came first. -/
  | timeout
  /-- The request is refused. -/
  | validation
  /-- Anything else. -/
  | internal
  deriving DecidableEq, Repr

namespace ServiceError

/-- The wording of an error; a wrapped damaged text has none. -/
def message? : ServiceError → Option String
  | .domain error => error.message?.map ("domain: " ++ ·)
  | .validation reason => some ("validation: " ++ reason)
  | .timeout operation millis =>
    some ("timeout: operation=" ++ operation ++ ", timeout_ms=" ++ natText millis)
  | .crashed reason => some ("infra: " ++ reason)
  | .setting key reason => some ("config: key=" ++ key ++ ", reason=" ++ reason)

/-- The class of an error. -/
def kind : ServiceError → ErrorKind
  | .domain (.handlerNotFound _) => .handlerNotFound
  | .domain (.field _ _) => .missingOrInvalidField
  | .domain (.unavailable _ _) => .collaboratorUnavailable
  | .domain _ => .internal
  | .validation _ => .validation
  | .timeout _ _ => .timeout
  | .crashed _ => .internal
  | .setting _ _ => .internal

/-- Trying again may help if a collaborator failed or a deadline came first. -/
def isRetryable (e : ServiceError) : Bool :=
  e.kind = .collaboratorUnavailable ∨ e.kind = .timeout

end ServiceError

end ActivityFeed
