import ActivityFeed.Text.Unmarked

/-!
# Visible text

Messages quote texts that came from outside. In such a quotation every character is visible: the
quote and the backslash are marked, the usual control characters have their short names, and any
other character that leaves no mark of its own on the page is given by its number.

* `ActivityFeed.Text.shown` – a character as a quotation shows it;
* `ActivityFeed.Text.quotation` – a text as a message quotes it.
-/

namespace ActivityFeed

namespace Text

/-- The character as a quotation shows it. -/
def shown (c : Char) : List Char :=
  if c = '"' then ['\\', '"']
  else if c = '\\' then ['\\', '\\']
  else if c = '\t' then ['\\', 't']
  else if c = '\n' then ['\\', 'n']
  else if c = '\r' then ['\\', 'r']
  else if c = '\x00' then ['\\', '0']
  else if leavesNoMark c then
    ['\\', 'u', '\x7b'] ++ Nat.toDigits 16 c.toNat ++ ['\x7d']
  else [c]

/-- The text in quotes, with every character visible. -/
def quotation (s : List Char) : List Char := ['"'] ++ s.flatMap shown ++ ['"']

example : quotation "a\"b\n".toList = "\"a\\\"b\\n\"".toList := by decide +kernel

end Text

end ActivityFeed
