/-!
# Blank characters

Texts that people or other programs supply may be padded. The padding that is ignored is made of
the characters with the Unicode property `White_Space`, which is neither the ASCII blanks nor the
format characters: a no-break space is blank, a zero-width space and a byte order mark are not.

* `ActivityFeed.Text.isBlank` – the property, as a table of ranges;
* `ActivityFeed.Text.trim` – a text without the blanks at its two ends.
-/

namespace ActivityFeed

namespace Text

/-- The code points with the property `White_Space`, as ranges with both ends included. -/
def blankRanges : List (Nat × Nat) :=
  [(0x09, 0x0D), (0x20, 0x20), (0x85, 0x85), (0xA0, 0xA0), (0x1680, 0x1680), (0x2000, 0x200A),
    (0x2028, 0x2029), (0x202F, 0x202F), (0x205F, 0x205F), (0x3000, 0x3000)]

/-- A character is blank if its code point lies in one of `blankRanges`. -/
def isBlank (c : Char) : Bool :=
  blankRanges.any fun r => decide (r.1 ≤ c.toNat) && decide (c.toNat ≤ r.2)

/-- The text without its leading blanks. -/
def trimStart (s : List Char) : List Char := s.dropWhile isBlank

/-- The text without its leading and trailing blanks. -/
def trim (s : List Char) : List Char := (trimStart (trimStart s).reverse).reverse

/-- The blanks that core knows are blank. -/
theorem isBlank_of_isWhitespace {c : Char} (h : c.isWhitespace = true) : isBlank c = true := by
  simp only [Char.isWhitespace, Bool.or_eq_true, decide_eq_true_eq] at h
  rcases h with ((rfl | rfl) | rfl) | rfl <;> decide

example : isBlank '\u00a0' = true ∧ isBlank '\u2028' = true ∧ isBlank '\u3000' = true := by decide

example : isBlank '\u200b' = false ∧ isBlank '\ufeff' = false ∧ isBlank '\u001c' = false := by
  decide

end Text

end ActivityFeed
