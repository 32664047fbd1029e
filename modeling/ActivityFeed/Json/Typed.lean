import ActivityFeed.Json.Fault

/-!
# Typed reading

Readers that take a value of a wanted type out of a tree. They go through the tree in the order of
the text and report the first problem, be it of shape or of form.

* `ActivityFeed.Json.readInt`, `readText`, `readTextMap`, `readUnit` – the simple readers;
* `ActivityFeed.Json.Record` – the description of a type with named fields;
* `ActivityFeed.Json.Record.read` – reads such a type from an object, or from an array that holds
  the fields in their order;
* `ActivityFeed.Json.read` – reads a whole text.

Reading a record fills a draft, field by field. The draft decides at the end whether enough was
there, so a field that may be absent needs no special treatment.
-/

namespace ActivityFeed

namespace Json

/-! ### Simple values -/

/-- A type of integers by its name and range. -/
structure IntegerType where
  /-- The name used in refusals. -/
  name : String
  /-- The integers of the type. -/
  range : Text.IntegerRange

/-- Signed integers of 64 bits. -/
def IntegerType.signed64 : IntegerType := ⟨"i64", .signed64⟩

/-- Unsigned integers of 64 bits. -/
def IntegerType.unsigned64 : IntegerType := ⟨"usize", .unsigned64⟩

/-- Reads an integer of the given type. -/
def readInt (t : IntegerType) : Value → Except Fault Int
  | .number (.int n) => if t.range.Holds n then .ok n else .error (.outOfRange n t.name)
  | v => .error (refusal t.name v.found?)

/-- Reads a text; `expected` is what a refusal asks for. -/
def readTextAs (expected : String) : Value → Except Fault String
  | .string (some s) => .ok s
  | v => .error (refusal expected v.found?)

/-- Reads a text. -/
def readText : Value → Except Fault String := readTextAs "a string"

/-- Reads the null value. -/
def readUnit : Value → Except Fault Unit
  | .null => .ok ()
  | v => .error (refusal "unit" v.found?)

/-- Reads the members of an object as pairs of texts. -/
def readTextMembers : List Member → Except Fault (List (String × String))
  | [] => .ok []
  | (none, _) :: _ => .error .malformed
  | (some k, v) :: rest => do
    let s ← readText v
    let r ← readTextMembers rest
    .ok ((k, s) :: r)

/-- An array or object that is not closed is malformed. -/
def Ending.check : Ending → Except Fault Unit
  | .closed => .ok ()
  | .cut => .error .malformed

/-- Reads an object whose values are texts, as its pairs in the order of the text. -/
def readTextMap : Value → Except Fault (List (String × String))
  | .object members ending => do
    let pairs ← readTextMembers members
    ending.check
    .ok pairs
  | v => .error (refusal "a map" v.found?)

/-! ### Records -/

/-- A field of a record that is read into a draft `δ`. -/
structure Field (δ : Type) where
  /-- The key of the field. -/
  name : String
  /-- The draft holds the field already. -/
  isSet : δ → Bool
  /-- Reads the field into the draft. -/
  read : Value → δ → Except Fault δ

/-- A type `α` of records, read through drafts of type `δ`. -/
structure Record (δ α : Type) where
  /-- The name used in refusals. -/
  name : String
  /-- The fields in their order. -/
  fields : List (Field δ)
  /-- The draft before anything is read. -/
  blank : δ
  /-- The record of a draft, or the name of the first field that is missing. -/
  finish : δ → Except String α

namespace Record

variable {δ α : Type} (r : Record δ α)

/-- Reads one member of an object: a known field is read once, and any other member is skipped. -/
def readMember (d : δ) : Member → Except Fault δ
  | (none, _) => .error .malformed
  | (some k, v) =>
    match r.fields.find? (·.name == k) with
    | none => .ok d
    | some f => if f.isSet d then .error (.duplicateField f.name) else f.read v d

/-- Reads the items of an array into the fields in their order; there may be fewer items. -/
def readItems : List (Field δ) → List Value → δ → Except Fault δ
  | _, [], d => .ok d
  | [], _ :: _, _ => .error .malformed
  | f :: fs, v :: vs, d => do readItems fs vs (← f.read v d)

/-- What a refusal of too short an array asks for. -/
def arity : String :=
  "struct " ++ r.name ++ " with " ++ String.ofList (Text.digits r.fields.length) ++ " elements"

/-- Reads a record from an object or from an array. -/
def read : Value → Except Fault α
  | .object members ending => do
    let d ← members.foldlM r.readMember r.blank
    ending.check
    (r.finish d).mapError .missingField
  | .array items ending => do
    let d ← readItems r.fields items r.blank
    ending.check
    (r.finish d).mapError fun _ => .shortArray items.length r.arity
  | v => .error (refusal ("struct " ++ r.name) v.found?)

end Record

/-! ### Whole texts -/

/-- Reads a document: first its value, then that nothing follows it. -/
def Document.read {α : Type} (reader : Value → Except Fault α) (doc : Document) :
    Except Fault α := do
  let a ← reader doc.root
  if doc.ended then .ok a else .error .malformed

/-- Reads a text. -/
def read {α : Type} (reader : Value → Except Fault α) (s : List Text.Glyph) : Except Fault α :=
  (Document.ofText s).read reader

/-- Reads a text given as characters. -/
def readString {α : Type} (reader : Value → Except Fault α) (s : String) : Except Fault α :=
  read reader (Text.ofChars s.toList)

end Json

end ActivityFeed
