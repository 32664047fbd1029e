import ActivityFeed.Json.Number

/-!
# Tokens

The words of a JSON text, in reading order. Scanning never fails: where the text is no word of the
language it ends with the token `broken`, so whoever reads the tokens meets the damage exactly
when their reading arrives at it, and can still report an earlier problem of another kind.

* `ActivityFeed.Json.Token` – the words;
* `ActivityFeed.Json.quoted?` – the body of a string literal, piece by piece;
* `ActivityFeed.Json.assemble` – the text that the pieces spell, if they spell one;
* `ActivityFeed.Json.scan` – the tokens of a text.

A string literal can be sound as a word and still spell no text, namely if it holds half of a
surrogate pair or a byte that belongs to no character. Such a literal is a token without a text:
it may stand where nobody looks at it.
-/

namespace ActivityFeed

namespace Json

open Text

/-- A word of a JSON text. -/
inductive Token where
  /-- The bracket that opens an object. -/
  | openBrace
  /-- The bracket that closes an object. -/
  | closeBrace
  /-- The bracket that opens an array. -/
  | openBracket
  /-- The bracket that closes an array. -/
  | closeBracket
  /-- What separates a key from its value. -/
  | colon
  /-- What separates items or members. -/
  | comma
  /-- The word `null`. -/
  | null
  /-- One of the words `true` and `false`. -/
  | bool (b : Bool)
  /-- A number literal. -/
  | number (n : Number)
  /-- A string literal with the text that it spells, if it spells one. -/
  | string (s : Option String)
  /-- The place where the text stops being made of words. -/
  | broken
  deriving DecidableEq, Repr

/-! ### String literals -/

/-- What one step through the body of a string literal yields. -/
inductive Piece where
  /-- A character, written plainly or by a short escape. -/
  | char (c : Char)
  /-- A UTF-16 unit, written by its number. -/
  | unit (u : Nat)
  /-- A byte that belongs to no character. -/
  | stray
  deriving DecidableEq, Repr

/-- The value of a hexadecimal digit, in either case. -/
def hexValue? (c : Char) : Option Nat :=
  if c.isDigit then some (c.toNat - '0'.toNat)
  else if 'a' ≤ c ∧ c ≤ 'f' then some (c.toNat - 'a'.toNat + 10)
  else if 'A' ≤ c ∧ c ≤ 'F' then some (c.toNat - 'A'.toNat + 10)
  else none

/-- The UTF-16 unit written with four hexadecimal digits. -/
def unit? (a b c d : Glyph) : Option Nat := do
  let a ← hexValue? (← a)
  let b ← hexValue? (← b)
  let c ← hexValue? (← c)
  let d ← hexValue? (← d)
  some (((a * 16 + b) * 16 + c) * 16 + d)

/-- The character that a short escape stands for, by the glyph after the backslash. -/
def shortEscape? : Glyph → Option Char
  | some '"' => some '"'
  | some '\\' => some '\\'
  | some '/' => some '/'
  | some 'b' => some '\x08'
  | some 'f' => some '\x0c'
  | some 'n' => some '\n'
  | some 'r' => some '\r'
  | some 't' => some '\t'
  | _ => none

/-- The body of a string literal and what follows its closing quote; a failure if the literal is
not closed, has an escape that does not exist, or holds a control character as it is. -/
def quoted? : List Glyph → Option (List Piece × List Glyph)
  | [] => none
  | none :: s => (quoted? s).map fun r => (.stray :: r.1, r.2)
  | some c :: s =>
    if c = '"' then some ([], s)
    else if c = '\\' then
      match s with
      | [] => none
      | e :: s =>
        if e = some 'u' then
          match s with
          | a :: b :: c :: d :: s =>
            (unit? a b c d).bind fun u => (quoted? s).map fun r => (.unit u :: r.1, r.2)
          | _ => none
        else (shortEscape? e).bind fun c => (quoted? s).map fun r => (.char c :: r.1, r.2)
    else if c.toNat < 0x20 then none
    else (quoted? s).map fun r => (.char c :: r.1, r.2)

/-- The unit opens a surrogate pair. -/
def opensPair (u : Nat) : Bool := 0xD800 ≤ u && u ≤ 0xDBFF

/-- The unit closes a surrogate pair. -/
def closesPair (u : Nat) : Bool := 0xDC00 ≤ u && u ≤ 0xDFFF

/-- The character of a surrogate pair. -/
def pairChar (u v : Nat) : Char :=
  Char.ofNat (0x10000 + (u - 0xD800) * 0x400 + (v - 0xDC00))

/-- The text that the pieces spell: none if a byte is stray or a surrogate has no partner. -/
def assemble : List Piece → Option (List Char)
  | [] => some []
  | .stray :: _ => none
  | .char c :: ps => (assemble ps).map (c :: ·)
  | .unit u :: ps =>
    if opensPair u then
      match ps with
      | .unit v :: ps => if closesPair v then (assemble ps).map (pairChar u v :: ·) else none
      | _ => none
    else if closesPair u then none
    else (assemble ps).map (Char.ofNat u :: ·)

/-- The token of a string literal with the given body. -/
def literal (ps : List Piece) : Token := .string ((assemble ps).map String.ofList)

theorem length_of_quoted? {s r : List Glyph} {ps : List Piece} (h : quoted? s = some (ps, r)) :
    r.length < s.length := by
  fun_induction quoted? s generalizing ps r with
  | case1 => cases h
  | case2 s ih =>
    obtain ⟨⟨qs, t⟩, ht, he⟩ := Option.map_eq_some_iff.1 h
    cases he
    exact Nat.lt_succ_of_lt (ih ht)
  | case3 => cases h; simp
  | case4 => cases h
  | case5 _ a b c d s ih =>
    obtain ⟨u, _, h⟩ := Option.bind_eq_some_iff.1 h
    obtain ⟨⟨qs, t⟩, ht, he⟩ := Option.map_eq_some_iff.1 h
    cases he
    have := ih ht
    simp only [List.length_cons]
    omega
  | case6 => cases h
  | case7 _ _ s _ ih =>
    obtain ⟨u, _, h⟩ := Option.bind_eq_some_iff.1 h
    obtain ⟨⟨qs, t⟩, ht, he⟩ := Option.map_eq_some_iff.1 h
    cases he
    have := ih ht
    simp only [List.length_cons]
    omega
  | case8 => cases h
  | case9 c s _ _ _ ih =>
    obtain ⟨⟨qs, t⟩, ht, he⟩ := Option.map_eq_some_iff.1 h
    cases he
    exact Nat.lt_succ_of_lt (ih ht)

/-! ### All tokens -/

/-- White space between tokens: space, tab, line feed and carriage return. -/
def isSpace (c : Char) : Bool := c == ' ' || c == '\t' || c == '\n' || c == '\r'

/-- The token that is a single character. -/
def mark? : Char → Option Token
  | '{' => some .openBrace
  | '}' => some .closeBrace
  | '[' => some .openBracket
  | ']' => some .closeBracket
  | ':' => some .colon
  | ',' => some .comma
  | _ => none

/-- The token at the head of a text that is written with letters. -/
def word? : List Glyph → Option (Token × List Glyph)
  | some 'n' :: some 'u' :: some 'l' :: some 'l' :: s => some (.null, s)
  | some 't' :: some 'r' :: some 'u' :: some 'e' :: s => some (.bool true, s)
  | some 'f' :: some 'a' :: some 'l' :: some 's' :: some 'e' :: s => some (.bool false, s)
  | _ => none

theorem length_of_word? {s r : List Glyph} {t : Token} (h : word? s = some (t, r)) :
    r.length < s.length := by
  unfold word? at h
  split at h <;> cases h <;> simp <;> omega

/-- The tokens of a text. A word ends where the next cannot be part of it, so nothing needs to
stand between two words. -/
def scan : List Glyph → List Token
  | [] => []
  | none :: _ => [.broken]
  | some c :: s =>
    if isSpace c then scan s
    else if c = '"' then
      match _h : quoted? s with
      | some (ps, r) => literal ps :: scan r
      | none => [.broken]
    else
      match mark? c with
      | some t => t :: scan s
      | none =>
        match _h : word? (some c :: s) with
        | some (t, r) => t :: scan r
        | none =>
          match _h : number? (some c :: s) with
          | some (n, r) => .number n :: scan r
          | none => [.broken]
termination_by s => s.length
decreasing_by
  · simp
  · exact Nat.lt_succ_of_lt (length_of_quoted? _h)
  · simp
  · exact length_of_word? _h
  · exact length_of_number? _h

example : scan (ofChars "[1, \"a\\u00e9\"]".toList) =
    [.openBracket, .number (.int 1), .comma, .string (some "aé"), .closeBracket] := by
  cbv

example : scan (ofChars "\"\\ud83d\\ude00\" \"\\ud83d\" x".toList) =
    [.string (some "😀"), .string none, .broken] := by
  cbv

end Json

end ActivityFeed
