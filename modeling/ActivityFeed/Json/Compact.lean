/-!
# Compact writing

JSON text without a blank. Strings are written with the fewest escapes that JSON allows: the quote,
the backslash and the control characters below the space, of which five have short names. All
other characters stand for themselves, the line separators and the delete character included.

* `ActivityFeed.Json.quote` – a string literal;
* `ActivityFeed.Json.objectText`, `ActivityFeed.Json.arrayText` – an object and an array of texts
  that are written already.
-/

namespace ActivityFeed

namespace Json

/-- The character as it stands in a string literal. -/
def escape (c : Char) : List Char :=
  if c = '"' then ['\\', '"']
  else if c = '\\' then ['\\', '\\']
  else if c = '\x08' then ['\\', 'b']
  else if c = '\x0c' then ['\\', 'f']
  else if c = '\n' then ['\\', 'n']
  else if c = '\r' then ['\\', 'r']
  else if c = '\t' then ['\\', 't']
  else if c.toNat < 0x20 then
    ['\\', 'u', '0', '0', Nat.digitChar (c.toNat / 16), Nat.digitChar (c.toNat % 16)]
  else [c]

/-- The string literal of a text. -/
def quote (s : List Char) : List Char := '"' :: (s.flatMap escape ++ ['"'])

/-- Texts with commas between them. -/
def commaSeparated : List (List Char) → List Char
  | [] => []
  | [t] => t
  | t :: ts => t ++ ',' :: commaSeparated ts

/-- A member of an object whose value is written already. -/
def memberText (key : String) (value : List Char) : List Char := quote key.toList ++ ':' :: value

/-- An object whose values are written already. -/
def objectText (members : List (String × List Char)) : List Char :=
  '\x7b' :: (commaSeparated (members.map fun m => memberText m.1 m.2) ++ ['\x7d'])

/-- An array whose items are written already. -/
def arrayText (items : List (List Char)) : List Char := '[' :: (commaSeparated items ++ [']'])

/-- An object of texts. -/
def textMapText (pairs : List (String × String)) : List Char :=
  objectText (pairs.map fun p => (p.1, quote p.2.toList))

example : quote "a\"\x01\x7f\u2028".toList = "\"a\\\"\\u0001\x7f\u2028\"".toList := by decide

example : textMapText [("uid", "7"), ("x", "")] = "\x7b\"uid\":\"7\",\"x\":\"\"\x7d".toList := by
  decide

end Json

end ActivityFeed
