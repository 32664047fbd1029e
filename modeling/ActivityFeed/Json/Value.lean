import ActivityFeed.Json.Token

/-!
# Documents

The tree of a JSON text, as far as the text can be read. A text that breaks off or goes wrong still
has a tree: the value at the place of the first problem is `broken` or is cut short, and every
array or object around that place stays open. Nothing stands behind the first problem, so a reader
who goes through the tree in order meets the problem in its place, after everything that was sound
and before anything that was not read.

* `ActivityFeed.Json.Value` – the trees;
* `ActivityFeed.Json.Reading` – a reading under way: the innermost open place and what is open
  around it;
* `ActivityFeed.Json.Reading.step` – one token more;
* `ActivityFeed.Json.Document` – a tree, with the information whether the text ended behind it.

Building a tree is a fold over the tokens, so it needs no look-ahead and no bound on the nesting.
-/

namespace ActivityFeed

namespace Json

/-- How an array or object ends. -/
inductive Ending where
  /-- With its closing bracket. -/
  | closed
  /-- Before that, where the text goes wrong or ends. -/
  | cut
  deriving DecidableEq, Repr

/-- The value that a JSON text stands for, as far as it can be read. -/
inductive Value where
  /-- The null value. -/
  | null
  /-- A truth value. -/
  | bool (b : Bool)
  /-- A number. -/
  | number (n : Number)
  /-- A string, with its text if the literal spells one. -/
  | string (s : Option String)
  /-- An array. -/
  | array (items : List Value) (ending : Ending)
  /-- An object, member by member; a key that spells no text is missing its text. -/
  | object (members : List (Option String × Value)) (ending : Ending)
  /-- No value can be read here. -/
  | broken
  deriving Repr

/-- A member of an object: its key and its value. -/
abbrev Member := Option String × Value

/-- An array or object that is still open around the place of reading. What was read of it stands
in reverse order. -/
inductive Frame where
  /-- An array, which waits for an item. -/
  | items (rev : List Value)
  /-- An object, which waits for the value of a key. -/
  | members (rev : List Member) (key : Option String)

/-- A reading under way. -/
inductive Reading where
  /-- A value must follow. -/
  | value (around : List Frame)
  /-- An array has just been opened. -/
  | firstItem (around : List Frame)
  /-- An item of an array is complete. -/
  | afterItem (rev : List Value) (around : List Frame)
  /-- An object has just been opened. -/
  | firstKey (around : List Frame)
  /-- A key must follow. -/
  | key (rev : List Member) (around : List Frame)
  /-- A colon must follow the key. -/
  | colon (rev : List Member) (key : Option String) (around : List Frame)
  /-- A member of an object is complete. -/
  | afterMember (rev : List Member) (around : List Frame)
  /-- The outermost value is complete. -/
  | complete (root : Value)
  /-- Something follows the outermost value. -/
  | trailing (root : Value)
  /-- The first problem was met. -/
  | stopped (root : Value)

namespace Reading

/-- Puts a complete value into its place. -/
def plug (v : Value) : List Frame → Reading
  | [] => .complete v
  | .items rev :: around => .afterItem (v :: rev) around
  | .members rev k :: around => .afterMember ((k, v) :: rev) around

/-- The outermost value if reading ends with `v` in the innermost open place. -/
def abandon (v : Value) : List Frame → Value
  | [] => v
  | .items rev :: around => abandon (.array (v :: rev).reverse .cut) around
  | .members rev k :: around => abandon (.object ((k, v) :: rev).reverse .cut) around

/-- The outermost value if reading ends here. -/
def root : Reading → Value
  | .value around => abandon .broken around
  | .firstItem around => abandon (.array [] .cut) around
  | .afterItem rev around => abandon (.array rev.reverse .cut) around
  | .firstKey around => abandon (.object [] .cut) around
  | .key rev around => abandon (.object rev.reverse .cut) around
  | .colon rev k around => abandon (.object ((k, .broken) :: rev).reverse .cut) around
  | .afterMember rev around => abandon (.object rev.reverse .cut) around
  | .complete v => v
  | .trailing v => v
  | .stopped v => v

/-- The reading after the first token of a value; none if no value begins with it. -/
def begin? (around : List Frame) : Token → Option Reading
  | .null => some (plug .null around)
  | .bool b => some (plug (.bool b) around)
  | .number n => some (plug (.number n) around)
  | .string s => some (plug (.string s) around)
  | .openBracket => some (.firstItem around)
  | .openBrace => some (.firstKey around)
  | _ => none

/-- The reading after one more token, if the token may stand there. -/
def step? : Reading → Token → Option Reading
  | .value around, t => begin? around t
  | .firstItem around, .closeBracket => some (plug (.array [] .closed) around)
  | .firstItem around, t => begin? (.items [] :: around) t
  | .afterItem rev around, .comma => some (.value (.items rev :: around))
  | .afterItem rev around, .closeBracket => some (plug (.array rev.reverse .closed) around)
  | .firstKey around, .closeBrace => some (plug (.object [] .closed) around)
  | .firstKey around, .string s => some (.colon [] s around)
  | .key rev around, .string s => some (.colon rev s around)
  | .colon rev k around, .colon => some (.value (.members rev k :: around))
  | .afterMember rev around, .comma => some (.key rev around)
  | .afterMember rev around, .closeBrace => some (plug (.object rev.reverse .closed) around)
  | .complete v, _ => some (.trailing v)
  | .trailing v, _ => some (.trailing v)
  | .stopped v, _ => some (.stopped v)
  | _, _ => none

/-- The reading after one more token. A token that may not stand there is the first problem. -/
def step (r : Reading) (t : Token) : Reading := (r.step? t).getD (.stopped r.root)

end Reading

/-- A JSON text as read. -/
structure Document where
  /-- The outermost value. -/
  root : Value
  /-- Nothing follows the outermost value. -/
  ended : Bool
  deriving Repr

/-- The document that the tokens make up. -/
def Document.ofTokens (ts : List Token) : Document :=
  let r := ts.foldl Reading.step (.value [])
  ⟨r.root, match r with | .trailing _ => false | _ => true⟩

/-- The document that a text makes up. -/
def Document.ofText (s : List Text.Glyph) : Document := .ofTokens (scan s)

end Json

end ActivityFeed
