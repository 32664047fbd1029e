import ActivityFeed.Json.Value
import ActivityFeed.Text.Decimal
import ActivityFeed.Text.Visible

/-!
# Why a JSON text is refused

Reading a typed value from a JSON text fails for one of two kinds of reasons. Either the text is
no JSON, and then it does not matter where; or it is JSON as far as it was read, but not of the
shape that was asked for, and then the wording tells what was found and what was expected.

* `ActivityFeed.Json.Found` – what stands in a place;
* `ActivityFeed.Json.Fault` – the causes of a refusal;
* `ActivityFeed.Json.Fault.message?` – the wording of those causes that have one.

Two causes have no wording of their own: a number that is no integer of 64 bits is not printed, and
a text that is no time is described by the reader of times.
-/

namespace ActivityFeed

namespace Json

/-- What stands in a place where something else was expected. -/
inductive Found where
  /-- The null value. -/
  | null
  /-- A truth value. -/
  | bool (b : Bool)
  /-- An integer of 64 bits. -/
  | int (n : Int)
  /-- Any other number. -/
  | float
  /-- A text. -/
  | text (s : String)
  /-- An array. -/
  | array
  /-- An object. -/
  | object
  deriving DecidableEq, Repr

/-- The wording of what was found; a number that is no integer has none. -/
def Found.describe? : Found → Option String
  | .null => some "null"
  | .bool b => some ("boolean `" ++ (if b then "true" else "false") ++ "`")
  | .int n => some ("integer `" ++ String.ofList (Text.signed n) ++ "`")
  | .float => none
  | .text s => some ("string " ++ String.ofList (Text.quotation s.toList))
  | .array => some "sequence"
  | .object => some "map"

/-- Why a text is refused. -/
inductive Fault where
  /-- The text is no JSON, or goes on where it should end. -/
  | malformed
  /-- A field that must be there is not. -/
  | missingField (name : String)
  /-- A field is there twice. -/
  | duplicateField (name : String)
  /-- Something else was expected. -/
  | mismatch (found : Found) (expected : String)
  /-- An integer does not fit. -/
  | outOfRange (n : Int) (expected : String)
  /-- A name is none of the known ones. -/
  | unknownVariant (name : String) (known : List String)
  /-- An array has fewer items than fields are needed. -/
  | shortArray (length : Nat) (expected : String)
  /-- A text is no time. -/
  | invalidTime
  deriving DecidableEq, Repr

/-- The two kinds of refusal. -/
inductive Category where
  /-- The text is no JSON. -/
  | malformed
  /-- The text is JSON as far as it was read, but not what was asked for. -/
  | shape
  deriving DecidableEq, Repr

namespace Fault

/-- The kind of a refusal. -/
def category : Fault → Category
  | .malformed => .malformed
  | _ => .shape

/-- The wording of a refusal because of the shape. -/
def message? : Fault → Option String
  | .malformed => none
  | .missingField name => some ("missing field `" ++ name ++ "`")
  | .duplicateField name => some ("duplicate field `" ++ name ++ "`")
  | .mismatch found expected =>
    found.describe?.map fun d => "invalid type: " ++ d ++ ", expected " ++ expected
  | .outOfRange n expected =>
    some ("invalid value: integer `" ++ String.ofList (Text.signed n) ++ "`, expected " ++ expected)
  | .unknownVariant name known =>
    some ("unknown variant `" ++ name ++ "`, expected one of " ++
      String.intercalate ", " (known.map fun k => "`" ++ k ++ "`"))
  | .shortArray length expected =>
    some ("invalid length " ++ String.ofList (Text.digits length) ++ ", expected " ++ expected)
  | .invalidTime => none

end Fault

/-! ### Describing what stands in a place -/

/-- What a value is, unless nothing sound stands there. -/
def Value.found? : Value → Option Found
  | .null => some .null
  | .bool b => some (.bool b)
  | .number (.int n) => some (.int n)
  | .number .float => some .float
  | .number .huge => none
  | .string s => s.map .text
  | .array _ _ => some .array
  | .object _ _ => some .object
  | .broken => none

/-- The refusal of what was found, where something else was expected. -/
def refusal (expected : String) : Option Found → Fault
  | some found => .mismatch found expected
  | none => .malformed

end Json

end ActivityFeed
