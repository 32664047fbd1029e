/-!
# Bytes as characters

A message arrives as bytes, and not every sequence of bytes is UTF-8. A `Glyph` is what a place in
the message holds: a character, or `none` for a byte that belongs to no character. Nothing is
dropped or replaced, so a later stage can still tell where the text is damaged and whether that
matters to it.

* `ActivityFeed.Text.glyphs` – the glyphs of a sequence of bytes;
* `ActivityFeed.Text.ofChars` – the glyphs of a text that is sound throughout.
-/

namespace ActivityFeed

namespace Text

/-- One place of a message: a character, or a byte that belongs to no character. -/
abbrev Glyph := Option Char

/-- A sound text, glyph by glyph. -/
def ofChars (s : List Char) : List Glyph := s.map some

/-- The six payload bits of a continuation byte. -/
def continuation? (b : UInt8) : Option Nat :=
  if 0x80 ≤ b ∧ b ≤ 0xBF then some (b.toNat - 0x80) else none

/-- The character with the given code point, unless a shorter form of it exists (`least` is the
first code point that needs this form) or it is not a character at all. -/
def character? (least code : Nat) : Option Char :=
  if least ≤ code ∧ code.isValidChar then some (Char.ofNat code) else none

/-- The character of two bytes. -/
def character2? (a b : UInt8) : Option Char := do
  let y ← continuation? b
  if 0xC0 ≤ a ∧ a ≤ 0xDF then character? 0x80 ((a.toNat - 0xC0) * 64 + y) else none

/-- The character of three bytes. -/
def character3? (a b c : UInt8) : Option Char := do
  let y ← continuation? b
  let z ← continuation? c
  if 0xE0 ≤ a ∧ a ≤ 0xEF then character? 0x800 (((a.toNat - 0xE0) * 64 + y) * 64 + z) else none

/-- The character of four bytes. -/
def character4? (a b c d : UInt8) : Option Char := do
  let y ← continuation? b
  let z ← continuation? c
  let w ← continuation? d
  if 0xF0 ≤ a ∧ a ≤ 0xF7 then
    character? 0x10000 ((((a.toNat - 0xF0) * 64 + y) * 64 + z) * 64 + w)
  else none

/-- The glyph at the head of a sequence of bytes, and how many further bytes it takes. -/
def leading (a : UInt8) (rest : List UInt8) : Glyph × Nat :=
  if a < 0x80 then (some (Char.ofNat a.toNat), 0)
  else
    match rest with
    | [] => (none, 0)
    | b :: rest =>
      match character2? a b with
      | some ch => (some ch, 1)
      | none =>
        match rest with
        | [] => (none, 0)
        | c :: rest =>
          match character3? a b c with
          | some ch => (some ch, 2)
          | none =>
            match rest with
            | [] => (none, 0)
            | d :: _ =>
              match character4? a b c d with
              | some ch => (some ch, 3)
              | none => (none, 0)

/-- The glyphs of a sequence of bytes, read as UTF-8. -/
def glyphs : List UInt8 → List Glyph
  | [] => []
  | a :: rest => (leading a rest).1 :: glyphs (rest.drop (leading a rest).2)
termination_by bytes => bytes.length
decreasing_by simp only [List.length_drop, List.length_cons]; omega

end Text

end ActivityFeed
