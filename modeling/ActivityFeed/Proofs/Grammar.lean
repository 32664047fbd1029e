import ActivityFeed.Json.Compact
import ActivityFeed.Json.Token
import Mathlib.Data.List.Basic
import Mathlib.Tactic.SplitIfs

/-!
# The words of JSON and how they are spelled

A text may be written in many ways: blanks between the words are free, a character of a string can
stand for itself or be escaped, and a number has signs, a fraction and an exponent. The first part
of this file is the grammar, which does not look at how texts are read:

* `ActivityFeed.Json.Blank` – white space;
* `ActivityFeed.Json.Spells` – a string literal spells a text;
* `ActivityFeed.Json.Body` – a string literal is well-formed, whether it spells a text or not;
* `ActivityFeed.Json.IsNumber` – a number literal.

The second part says that scanning takes every such word as a whole, whatever follows it. Only a
number needs something about what follows, namely that it does not go on with the number
(`ActivityFeed.Json.NumberEnds`).
-/

namespace ActivityFeed

namespace Json

open Text

/-! ### White space -/

/-- Characters that may stand between any two words. -/
def Blank (w : List Char) : Prop := ∀ c ∈ w, c ∈ [' ', '\t', '\n', '\r']

instance (w : List Char) : Decidable (Blank w) :=
  List.decidableBAll (fun c => c ∈ [' ', '\t', '\n', '\r']) w

/-! ### String literals -/

/-- The characters that may follow a backslash, each with the character that the two stand for. -/
def shortEscapes : List (Char × Char) :=
  [('"', '"'), ('\\', '\\'), ('/', '/'), ('b', '\x08'), ('f', '\x0c'), ('n', '\n'), ('r', '\r'),
    ('t', '\t')]

/-- A hexadecimal digit, in either case, and its value. -/
def IsHexDigit (p : Char) (n : ℕ) : Prop :=
  n < 16 ∧ (p = Nat.digitChar n ∨ p = (Nat.digitChar n).toUpper)

/-- A UTF-16 unit that opens a surrogate pair. -/
def IsHigh (u : ℕ) : Prop := 0xD800 ≤ u ∧ u ≤ 0xDBFF

/-- A UTF-16 unit that closes a surrogate pair. -/
def IsLow (u : ℕ) : Prop := 0xDC00 ≤ u ∧ u ≤ 0xDFFF

instance (u : ℕ) : Decidable (IsHigh u) := inferInstanceAs (Decidable (0xD800 ≤ u ∧ u ≤ 0xDBFF))

instance (u : ℕ) : Decidable (IsLow u) := inferInstanceAs (Decidable (0xDC00 ≤ u ∧ u ≤ 0xDFFF))

/-- The ways to write one piece of a string literal. -/
inductive Writes : Piece → List Char → Prop where
  /-- A character that stands for itself. -/
  | plain {c : Char} (hq : c ≠ '"') (hb : c ≠ '\\') (hc : ¬c.toNat < 0x20) : Writes (.char c) [c]
  /-- A character with a short escape. -/
  | short {e c : Char} (h : (e, c) ∈ shortEscapes) : Writes (.char c) ['\\', e]
  /-- A UTF-16 unit by its number. -/
  | unit {p q r t : Char} {i j k l : ℕ} (hp : IsHexDigit p i) (hq : IsHexDigit q j)
      (hr : IsHexDigit r k) (ht : IsHexDigit t l) :
      Writes (.unit (i * 4096 + j * 256 + k * 16 + l)) ['\\', 'u', p, q, r, t]

/-- The body of a string literal spells a text: a unit that is no surrogate stands for a character,
and so do two surrogates that make a pair. -/
inductive Spells : List Char → List Char → Prop where
  /-- Nothing spells the empty text. -/
  | nil : Spells [] []
  /-- A character. -/
  | char {c : Char} {x b s : List Char} (hx : Writes (.char c) x) (h : Spells b s) :
      Spells (x ++ b) (c :: s)
  /-- A unit that is a character of its own. -/
  | unit {u : ℕ} {x b s : List Char} (hx : Writes (.unit u) x) (ho : ¬IsHigh u) (hc : ¬IsLow u)
      (h : Spells b s) : Spells (x ++ b) (Char.ofNat u :: s)
  /-- Two units that are a character together. -/
  | pair {u v : ℕ} {x y b s : List Char} (hx : Writes (.unit u) x) (hy : Writes (.unit v) y)
      (ho : IsHigh u) (hc : IsLow v) (h : Spells b s) :
      Spells (x ++ (y ++ b)) (Char.ofNat (0x10000 + (u - 0xD800) * 0x400 + (v - 0xDC00)) :: s)

/-- The body of a string literal is written piece by piece. -/
inductive Pieces : List Piece → List Char → Prop where
  /-- Nothing stands in the literal. -/
  | nil : Pieces [] []
  /-- One piece more. -/
  | cons {p : Piece} {x : List Char} {ps : List Piece} {b : List Char} (hx : Writes p x)
      (h : Pieces ps b) : Pieces (p :: ps) (x ++ b)

/-- The body of a string literal is well-formed; surrogates may stand without a partner. -/
def Body (b : List Char) : Prop := ∃ ps, Pieces ps b

/-- The string literal with the given body. -/
def inQuotes (b : List Char) : List Char := '"' :: (b ++ ['"'])

/-- A string literal that spells the given text. -/
def LiteralOf (s : String) (t : List Char) : Prop := ∃ b, Spells b s.toList ∧ t = inQuotes b

/-! ### Numbers -/

/-- Digits, at least one. -/
def Digits (ds : List Char) : Prop := ds ≠ [] ∧ ∀ c ∈ ds, c.isDigit = true

/-- Digits of which the first is no zero, or a zero alone. -/
def Whole (ds : List Char) : Prop := Digits ds ∧ (ds.head? = some '0' → ds = ['0'])

/-- The fraction of a number, which may be absent. -/
inductive IsFraction : List Char → Prop where
  /-- There is no fraction. -/
  | none : IsFraction []
  /-- A point and digits. -/
  | digits {ds : List Char} (h : Digits ds) : IsFraction ('.' :: ds)

/-- The sign of an exponent, which may be absent. -/
inductive IsSign : List Char → Prop where
  /-- There is no sign. -/
  | none : IsSign []
  /-- A sign without effect. -/
  | plus : IsSign ['+']
  /-- The sign of a negative exponent. -/
  | minus : IsSign ['-']

/-- The exponent of a number, which may be absent. -/
inductive IsExponent : List Char → Prop where
  /-- There is no exponent. -/
  | none : IsExponent []
  /-- A letter, a sign and digits. -/
  | digits {e : Char} {sign ds : List Char} (he : e = 'e' ∨ e = 'E') (hs : IsSign sign)
      (h : Digits ds) : IsExponent (e :: (sign ++ ds))

/-- A number literal. -/
inductive IsNumber : List Char → Prop where
  /-- A number that is not negative. -/
  | plain {ds f e : List Char} (hd : Whole ds) (hf : IsFraction f) (he : IsExponent e) :
      IsNumber (ds ++ (f ++ e))
  /-- A number with a sign. -/
  | minus {ds f e : List Char} (hd : Whole ds) (hf : IsFraction f) (he : IsExponent e) :
      IsNumber ('-' :: (ds ++ (f ++ e)))

/-- What follows does not go on with a number. -/
def NumberEnds (s : List Glyph) : Prop :=
  ∀ c r, s = some c :: r → c.isDigit = false ∧ c ≠ '.' ∧ c ≠ 'e' ∧ c ≠ 'E'

/-! ### Reading a string literal -/

theorem ofChars_append (s t : List Char) : ofChars (s ++ t) = ofChars s ++ ofChars t :=
  List.map_append

theorem shortEscape?_of_mem : ∀ x ∈ shortEscapes, shortEscape? (some x.1) = some x.2 := by
  decide

theorem hexValue?_digitChar : ∀ n < 16, hexValue? (Nat.digitChar n) = some n ∧
    hexValue? (Nat.digitChar n).toUpper = some n := by
  decide

theorem hexValue?_of_isHexDigit {p : Char} {n : ℕ} (h : IsHexDigit p n) :
    hexValue? p = some n := by
  obtain ⟨hn, rfl | rfl⟩ := h
  · exact (hexValue?_digitChar n hn).1
  · exact (hexValue?_digitChar n hn).2

theorem unit?_of_isHexDigit {p q r t : Char} {i j k l : ℕ} (hp : IsHexDigit p i)
    (hq : IsHexDigit q j) (hr : IsHexDigit r k) (ht : IsHexDigit t l) :
    unit? (some p) (some q) (some r) (some t) = some (i * 4096 + j * 256 + k * 16 + l) := by
  have hvalue : ((i * 16 + j) * 16 + k) * 16 + l = i * 4096 + j * 256 + k * 16 + l := by omega
  rw [← hvalue]
  simp [unit?, hexValue?_of_isHexDigit hp, hexValue?_of_isHexDigit hq, hexValue?_of_isHexDigit hr,
    hexValue?_of_isHexDigit ht]

theorem opensPair_iff {u : ℕ} : opensPair u = true ↔ IsHigh u := by
  rw [opensPair, Bool.and_eq_true, decide_eq_true_iff, decide_eq_true_iff, IsHigh]

theorem closesPair_iff {u : ℕ} : closesPair u = true ↔ IsLow u := by
  rw [closesPair, Bool.and_eq_true, decide_eq_true_iff, decide_eq_true_iff, IsLow]

/-- **A piece is read as it was written**, whatever follows it. -/
theorem quoted?_writes {p : Piece} {x : List Char} (h : Writes p x) (s : List Glyph) :
    quoted? (ofChars x ++ s) = (quoted? s).map fun r => (p :: r.1, r.2) := by
  cases h with
  | @plain c hq hb hc =>
    -- the right side reads the rest of the literal, and stays as it is
    show quoted? (some c :: s) = _
    conv_lhs => unfold quoted?
    rw [if_neg hq, if_neg hb, if_neg hc]
  | @short e c h =>
    have hread := shortEscape?_of_mem _ h
    have hu : e ≠ 'u' := by
      rintro rfl
      cases hread
    show quoted? (some '\\' :: some e :: s) = _
    conv_lhs => unfold quoted?
    simp [hu, hread]
  | @unit p q r t i j k l hp hq hr ht =>
    have hread := unit?_of_isHexDigit hp hq hr ht
    show quoted? (some '\\' :: some 'u' :: some p :: some q :: some r :: some t :: s) = _
    conv_lhs => unfold quoted?
    simp [hread]

theorem quoted?_end (s : List Glyph) : quoted? (some '"' :: s) = some ([], s) := by
  conv_lhs => unfold quoted?
  rfl

theorem assemble_unit {u : ℕ} (ho : ¬IsHigh u) (hc : ¬IsLow u) (ps : List Piece) :
    assemble (.unit u :: ps) = (assemble ps).map (Char.ofNat u :: ·) := by
  conv_lhs => unfold assemble
  rw [if_neg (opensPair_iff.not.mpr ho), if_neg (closesPair_iff.not.mpr hc)]

theorem assemble_pair {u v : ℕ} (ho : IsHigh u) (hc : IsLow v) (ps : List Piece) :
    assemble (.unit u :: .unit v :: ps) =
      (assemble ps).map (Char.ofNat (0x10000 + (u - 0xD800) * 0x400 + (v - 0xDC00)) :: ·) := by
  conv_lhs => unfold assemble
  rw [if_pos (opensPair_iff.mpr ho)]
  exact if_pos (closesPair_iff.mpr hc)

/-- **A body is read piece by piece**, up to the closing quote. -/
theorem quoted?_pieces {ps : List Piece} {b : List Char} (h : Pieces ps b) (rest : List Glyph) :
    quoted? (ofChars b ++ some '"' :: rest) = some (ps, rest) := by
  induction h with
  | nil => exact quoted?_end rest
  | cons hx _ ih =>
    rw [ofChars_append, List.append_assoc, quoted?_writes hx, ih, Option.map_some]

/-- A body that spells a text is made of pieces that make up that text. -/
theorem exists_pieces {b s : List Char} (h : Spells b s) :
    ∃ ps, Pieces ps b ∧ assemble ps = some s := by
  induction h with
  | nil => exact ⟨[], .nil, rfl⟩
  | char hx _ ih =>
    obtain ⟨ps, hps, hs⟩ := ih
    exact ⟨_, .cons hx hps, by rw [assemble, hs, Option.map_some]⟩
  | unit hx ho hc _ ih =>
    obtain ⟨ps, hps, hs⟩ := ih
    exact ⟨_, .cons hx hps, by rw [assemble_unit ho hc, hs, Option.map_some]⟩
  | pair hx hy ho hc _ ih =>
    obtain ⟨ps, hps, hs⟩ := ih
    exact ⟨_, .cons hx (.cons hy hps), by rw [assemble_pair ho hc, hs, Option.map_some]⟩

/-- **Pieces that make up a text spell it**, so a literal is read as nothing that it does not
spell. -/
theorem spells_of_assemble {ps : List Piece} {b s : List Char} (h : Pieces ps b)
    (hs : assemble ps = some s) : Spells b s := by
  fun_induction assemble ps generalizing b s with
  | case1 =>
    cases h
    cases hs
    exact .nil
  | case3 c ps ih =>
    obtain ⟨t, ht, rfl⟩ := Option.map_eq_some_iff.mp hs
    cases h with
    | cons hx h => exact .char hx (ih h ht)
  | case4 u ho v ps hc ih =>
    obtain ⟨t, ht, rfl⟩ := Option.map_eq_some_iff.mp hs
    cases h with
    | cons hx h =>
      cases h with
      | cons hy h => exact .pair hx hy (opensPair_iff.mp ho) (closesPair_iff.mp hc) (ih h ht)
  | case8 u ps ho hc ih =>
    obtain ⟨t, ht, rfl⟩ := Option.map_eq_some_iff.mp hs
    cases h with
    | cons hx h =>
      exact .unit hx (opensPair_iff.not.mp ho) (closesPair_iff.not.mp hc) (ih h ht)
  | _ => cases hs

theorem Spells.body {b s : List Char} (h : Spells b s) : Body b := by
  obtain ⟨ps, hps, -⟩ := exists_pieces h
  exact ⟨ps, hps⟩

/-- A literal is one word. -/
theorem scan_inQuotes {ps : List Piece} {b : List Char} (h : Pieces ps b) (rest : List Glyph) :
    scan (ofChars (inQuotes b) ++ rest) = literal ps :: scan rest := by
  have hquote : ofChars (inQuotes b) ++ rest = some '"' :: (ofChars b ++ some '"' :: rest) := by
    rw [inQuotes, ofChars, List.map_cons, List.map_append, List.cons_append, List.append_assoc]
    rfl
  rw [hquote, scan, if_neg (by decide), if_pos rfl]
  -- the literal is closed, so only the first case can occur
  split
  · rename_i hread
    rw [quoted?_pieces h] at hread
    obtain ⟨rfl, rfl⟩ := Prod.mk.inj (Option.some.inj hread)
    rfl
  · rename_i hread
    rw [quoted?_pieces h] at hread
    cases hread

/-- **A literal is read as the text that it spells.** -/
theorem scan_literal {b : List Char} {s : String} (h : Spells b s.toList) (rest : List Glyph) :
    scan (ofChars (inQuotes b) ++ rest) = .string (some s) :: scan rest := by
  obtain ⟨ps, hps, hs⟩ := exists_pieces h
  rw [scan_inQuotes hps, literal, hs, Option.map_some, String.ofList_toList]

/-- A literal that spells no text is a word without a text. -/
theorem scan_unspelled {b : List Char} (h : Body b) (hs : ∀ s, ¬Spells b s) (rest : List Glyph) :
    scan (ofChars (inQuotes b) ++ rest) = .string none :: scan rest := by
  obtain ⟨ps, hps⟩ := h
  have hnone : assemble ps = none := by
    rw [Option.eq_none_iff_forall_ne_some]
    intro s hread
    exact hs s (spells_of_assemble hps hread)
  rw [scan_inQuotes hps, literal, hnone, Option.map_none]

/-! ### Reading the other words -/

theorem isSpace_iff {c : Char} : isSpace c = true ↔ c ∈ [' ', '\t', '\n', '\r'] := by
  simp [isSpace, or_assoc]

theorem scan_space {c : Char} (h : isSpace c = true) (s : List Glyph) :
    scan (some c :: s) = scan s := by
  rw [scan, if_pos h]

theorem scan_blank {w : List Char} (h : Blank w) (s : List Glyph) :
    scan (ofChars w ++ s) = scan s := by
  induction w with
  | nil => rfl
  | cons c w ih =>
    show scan (some c :: (ofChars w ++ s)) = _
    rw [scan_space (isSpace_iff.mpr (h c List.mem_cons_self)),
      ih fun d hd => h d (List.mem_cons_of_mem c hd)]

/-- A mark is neither white space nor a quote. -/
theorem isSpace_mark {c : Char} {t : Token} (h : mark? c = some t) :
    isSpace c = false ∧ c ≠ '"' := by
  unfold mark? at h
  split at h
  case h_7 => cases h
  all_goals decide

theorem scan_mark {c : Char} {t : Token} (h : mark? c = some t) (rest : List Glyph) :
    scan (some c :: rest) = t :: scan rest := by
  obtain ⟨hs, hq⟩ := isSpace_mark h
  rw [scan, if_neg (by rw [hs]; decide), if_neg hq, h]

theorem scan_word {c : Char} {s r : List Glyph} {t : Token} (hs : isSpace c = false)
    (hq : c ≠ '"') (hm : mark? c = none) (h : word? (some c :: s) = some (t, r)) :
    scan (some c :: s) = t :: scan r := by
  rw [scan, if_neg (by rw [hs]; decide), if_neg hq, hm]
  simp only
  split
  · rename_i hread
    rw [h] at hread
    obtain ⟨rfl, rfl⟩ := Prod.mk.inj (Option.some.inj hread)
    rfl
  · rename_i hread
    rw [h] at hread
    cases hread

/-! ### Reading a number -/

/-- The text does not begin with a digit. -/
def NoDigit (s : List Glyph) : Prop := ∀ c r, s = some c :: r → c.isDigit = false

/-- The text does not go on with the digits or the fraction of a number. -/
def NoFraction (s : List Glyph) : Prop := ∀ c r, s = some c :: r → c.isDigit = false ∧ c ≠ '.'

theorem NumberEnds.noFraction {s : List Glyph} (h : NumberEnds s) : NoFraction s :=
  fun c r hs => ⟨(h c r hs).1, (h c r hs).2.1⟩

theorem NoFraction.noDigit {s : List Glyph} (h : NoFraction s) : NoDigit s :=
  fun c r hs => (h c r hs).1

theorem noFraction_exponent {e : List Char} {s : List Glyph} (he : IsExponent e)
    (hs : NumberEnds s) : NoFraction (ofChars e ++ s) := by
  cases he with
  | none => exact hs.noFraction
  | digits he _ _ =>
    rintro c r ⟨rfl, -⟩
    rcases he with rfl | rfl <;> decide

theorem noDigit_fraction {f : List Char} {s : List Glyph} (hf : IsFraction f)
    (hs : NoFraction s) : NoDigit (ofChars f ++ s) := by
  cases hf with
  | none => exact hs.noDigit
  | digits _ =>
    rintro c r ⟨rfl, -⟩
    decide

/-- A run of digits is taken as far as it goes. -/
theorem leadingDigits_append {ds : List Char} {s : List Glyph} (hd : ∀ c ∈ ds, c.isDigit = true)
    (hs : NoDigit s) :
    leadingDigits (ofChars ds ++ s) = ds ∧ afterDigits (ofChars ds ++ s) = s := by
  induction ds with
  | nil =>
    rcases s with _ | ⟨_ | c, s⟩
    · exact ⟨rfl, rfl⟩
    · exact ⟨rfl, rfl⟩
    · have hc : isDigit (some c) = false := hs c s rfl
      show (List.takeWhile isDigit (some c :: s)).filterMap id = [] ∧
        List.dropWhile isDigit (some c :: s) = some c :: s
      rw [List.takeWhile_cons, List.dropWhile_cons, hc]
      exact ⟨rfl, rfl⟩
  | cons c ds ih =>
    obtain ⟨hl, ha⟩ := ih fun d hd' => hd d (List.mem_cons_of_mem c hd')
    have hc : isDigit (some c) = true := hd c List.mem_cons_self
    show (List.takeWhile isDigit (some c :: (ofChars ds ++ s))).filterMap id = c :: ds ∧
      List.dropWhile isDigit (some c :: (ofChars ds ++ s)) = s
    rw [List.takeWhile_cons, List.dropWhile_cons, hc]
    exact ⟨congrArg (c :: ·) hl, ha⟩

/-- Where no point stands, there is no fraction. -/
theorem fraction?_of_noFraction {s : List Glyph} (h : NoFraction s) :
    fraction? s = some ([], s) := by
  unfold fraction?
  split
  · rename_i r
    exact absurd rfl (h '.' r rfl).2
  · rfl

theorem fraction?_append {f : List Char} (hf : IsFraction f) :
    ∃ ds, ∀ s, NoFraction s → fraction? (ofChars f ++ s) = some (ds, s) := by
  cases hf with
  | none => exact ⟨[], fun _ => fraction?_of_noFraction⟩
  | @digits ds hd =>
    refine ⟨ds, fun s hs => ?_⟩
    obtain ⟨hl, ha⟩ := leadingDigits_append hd.2 hs.noDigit
    show fraction? (some '.' :: (ofChars ds ++ s)) = _
    rw [fraction?, hl, ha, if_neg hd.1]

theorem takeMinus_of_ne {c : Char} (hc : c ≠ '-') (s : List Glyph) :
    takeMinus (some c :: s) = (false, some c :: s) := by
  unfold takeMinus
  split
  · rename_i h
    cases h
    exact absurd rfl hc
  · rfl

theorem Digits.exists_cons {ds : List Char} (h : Digits ds) :
    ∃ c r, ds = c :: r ∧ c.isDigit = true := by
  obtain ⟨hne, hall⟩ := h
  obtain ⟨c, r, rfl⟩ := List.exists_cons_of_ne_nil hne
  exact ⟨c, r, rfl, hall c List.mem_cons_self⟩

theorem ne_of_isDigit {c d : Char} (hc : c.isDigit = true) (hd : d.isDigit = false) : c ≠ d := by
  rintro rfl
  rw [hc] at hd
  cases hd

theorem takeSign_append {sign ds : List Char} (hsign : IsSign sign) (hd : Digits ds) :
    ∃ negative, ∀ s, takeSign (ofChars (sign ++ ds) ++ s) = (negative, ofChars ds ++ s) := by
  cases hsign with
  | plus => exact ⟨false, fun _ => rfl⟩
  | minus => exact ⟨true, fun _ => rfl⟩
  | none =>
    refine ⟨false, fun s => ?_⟩
    obtain ⟨c, r, rfl, hc⟩ := hd.exists_cons
    show takeSign (some c :: (ofChars r ++ s)) = (false, some c :: (ofChars r ++ s))
    unfold takeSign
    split
    · rename_i h
      cases h
      exact absurd hc (by decide)
    · rw [takeMinus_of_ne (ne_of_isDigit hc (by decide))]

theorem exponentDigits?_append {sign ds : List Char} (hsign : IsSign sign) (hd : Digits ds) :
    ∃ x, ∀ s, NoDigit s → exponentDigits? (ofChars (sign ++ ds) ++ s) = some (x, s) := by
  obtain ⟨negative, htake⟩ := takeSign_append hsign hd
  refine ⟨if negative then -(natural ds : Int) else natural ds, fun s hs => ?_⟩
  obtain ⟨hl, ha⟩ := leadingDigits_append hd.2 hs
  rw [exponentDigits?, htake]
  simp only
  rw [hl, ha, if_neg hd.1]

/-- Where a number ends, there is no exponent. -/
theorem exponent?_of_numberEnds {s : List Glyph} (h : NumberEnds s) :
    exponent? s = some (none, s) := by
  unfold exponent?
  split
  · rename_i r
    exact absurd rfl (h 'e' r rfl).2.2.1
  · rename_i r
    exact absurd rfl (h 'E' r rfl).2.2.2
  · rfl

theorem exponent?_append {e : List Char} (he : IsExponent e) :
    ∃ x, ∀ s, NumberEnds s → exponent? (ofChars e ++ s) = some (x, s) := by
  cases he with
  | none => exact ⟨none, fun _ => exponent?_of_numberEnds⟩
  | @digits e sign ds he hsign hd =>
    obtain ⟨x, hx⟩ := exponentDigits?_append hsign hd
    refine ⟨some x, fun s hs => ?_⟩
    have hread := hx s hs.noFraction.noDigit
    rcases he with rfl | rfl
    · show (exponentDigits? (ofChars (sign ++ ds) ++ s)).map _ = _
      rw [hread, Option.map_some]
    · show (exponentDigits? (ofChars (sign ++ ds) ++ s)).map _ = _
      rw [hread, Option.map_some]

/-- Digits, a fraction and an exponent are read as one number, with or without a sign. What the
fraction and the exponent are read as decides about the class of the number. -/
theorem number?_parts (negative : Bool) {ds f e part : List Char} {x : Option Int} (hd : Whole ds)
    (hf : IsFraction f) (hpart : ∀ s, NoFraction s → fraction? (ofChars f ++ s) = some (part, s))
    (he : IsExponent e) (hx : ∀ s, NumberEnds s → exponent? (ofChars e ++ s) = some (x, s))
    {t s : List Glyph} (hs : NumberEnds s)
    (ht : takeMinus t = (negative, ofChars ds ++ (ofChars f ++ (ofChars e ++ s)))) :
    number? t = some (if part = [] ∧ x = none then integer negative ds
      else magnitude (ds ++ part) (x.getD 0 - part.length), s) := by
  have hexponent := noFraction_exponent he hs
  obtain ⟨hl, ha⟩ := leadingDigits_append hd.1.2 (noDigit_fraction hf hexponent)
  have hwhole : ¬(ds = [] ∨ ds.head? = some '0' ∧ 1 < ds.length) := by
    rintro (h | ⟨hzero, hlong⟩)
    · exact hd.1.1 h
    · rw [hd.2 hzero] at hlong
      exact absurd hlong (by decide)
  unfold number?
  simp only [ht, hl, ha, if_neg hwhole, hpart _ hexponent, hx s hs, Option.bind_eq_bind,
    Option.bind_some]
  split <;> rfl

/-- **A number literal is read to its end.** -/
theorem number?_append {t : List Char} (h : IsNumber t) :
    ∃ n, ∀ s, NumberEnds s → number? (ofChars t ++ s) = some (n, s) := by
  cases h with
  | @plain ds f e hd hf he =>
    obtain ⟨part, hpart⟩ := fraction?_append hf
    obtain ⟨x, hx⟩ := exponent?_append he
    refine ⟨_, fun s hs => number?_parts false hd hf hpart he hx hs ?_⟩
    rw [ofChars_append, ofChars_append, List.append_assoc, List.append_assoc]
    obtain ⟨c, r, rfl, hc⟩ := hd.1.exists_cons
    exact takeMinus_of_ne (ne_of_isDigit hc (by decide)) _
  | @minus ds f e hd hf he =>
    obtain ⟨part, hpart⟩ := fraction?_append hf
    obtain ⟨x, hx⟩ := exponent?_append he
    refine ⟨_, fun s hs => number?_parts true hd hf hpart he hx hs ?_⟩
    show (true, ofChars (ds ++ (f ++ e)) ++ s) = _
    rw [ofChars_append, ofChars_append, List.append_assoc, List.append_assoc]

/-- **An integer literal is read as its class.** -/
theorem number?_whole {ds : List Char} (hd : Whole ds) {negative : Bool} {t s : List Glyph}
    (hs : NumberEnds s) (ht : takeMinus t = (negative, ofChars ds ++ s)) :
    number? t = some (integer negative ds, s) :=
  number?_parts _ hd .none (fun _ => fraction?_of_noFraction) .none
    (fun _ => exponent?_of_numberEnds) hs ht

/-- A number literal begins with a digit or a sign. -/
theorem IsNumber.exists_cons {t : List Char} (h : IsNumber t) :
    ∃ c r, t = c :: r ∧ (c.isDigit = true ∨ c = '-') := by
  cases h with
  | @plain ds f e hd _ _ =>
    obtain ⟨c, r, rfl, hc⟩ := hd.1.exists_cons
    exact ⟨c, _, rfl, .inl hc⟩
  | minus _ _ _ => exact ⟨'-', _, rfl, .inr rfl⟩

/-- Where a digit or a sign stands, no word of another kind begins. -/
theorem scan_numeral {c : Char} (h : c.isDigit = true ∨ c = '-') {n : Number} {s r : List Glyph}
    (hread : number? (some c :: s) = some (n, r)) :
    scan (some c :: s) = .number n :: scan r := by
  have hne : ∀ d : Char, d.isDigit = false → d ≠ '-' → c ≠ d := by
    intro d hd hm
    rcases h with h | rfl
    · exact ne_of_isDigit h hd
    · exact hm.symm
  have hspace : isSpace c = false := by
    simp only [isSpace, Bool.or_eq_false_iff, beq_eq_false_iff_ne]
    exact ⟨⟨⟨hne _ (by decide) (by decide), hne _ (by decide) (by decide)⟩,
      hne _ (by decide) (by decide)⟩, hne _ (by decide) (by decide)⟩
  have hmark : mark? c = none := by
    unfold mark?
    split
    case h_7 => rfl
    all_goals exact absurd rfl (hne _ (by decide) (by decide))
  have hword : word? (some c :: s) = none := by
    unfold word?
    split
    case h_4 => rfl
    all_goals
      rename_i heq
      cases heq
      exact absurd rfl (hne _ (by decide) (by decide))
  rw [scan, if_neg (by rw [hspace]; decide), if_neg (hne '"' (by decide) (by decide)), hmark]
  simp only
  split
  · rename_i heq
    rw [hword] at heq
    cases heq
  · split
    · rename_i heq
      rw [hread] at heq
      obtain ⟨rfl, rfl⟩ := Prod.mk.inj (Option.some.inj heq)
      rfl
    · rename_i heq
      rw [hread] at heq
      cases heq

/-- **A number is one word.** -/
theorem scan_number {t : List Char} (h : IsNumber t) :
    ∃ n, ∀ s, NumberEnds s → scan (ofChars t ++ s) = .number n :: scan s := by
  obtain ⟨n, hn⟩ := number?_append h
  obtain ⟨c, r, rfl, hc⟩ := h.exists_cons
  exact ⟨n, fun s hs => scan_numeral hc (hn s hs)⟩

/-! ### Compact writing keeps to the grammar -/

/-- A control character is written by its number. -/
theorem writes_control {n : ℕ} (h : n < 32) :
    Writes (.unit n) ['\\', 'u', '0', '0', Nat.digitChar (n / 16), Nat.digitChar (n % 16)] := by
  have hzero : IsHexDigit '0' 0 := ⟨by decide, .inl rfl⟩
  have hhigh : IsHexDigit (Nat.digitChar (n / 16)) (n / 16) := ⟨by omega, .inl rfl⟩
  have hlow : IsHexDigit (Nat.digitChar (n % 16)) (n % 16) := ⟨by omega, .inl rfl⟩
  have hvalue : 0 * 4096 + 0 * 256 + n / 16 * 16 + n % 16 = n := by omega
  have hwrites := Writes.unit hzero hzero hhigh hlow
  rwa [hvalue] at hwrites

/-- The number of a control character is no surrogate. -/
theorem spells_control {c : Char} (h : c.toNat < 0x20) {b s : List Char} (hs : Spells b s) :
    Spells (['\\', 'u', '0', '0', Nat.digitChar (c.toNat / 16), Nat.digitChar (c.toNat % 16)] ++ b)
      (c :: s) := by
  have ho : ¬IsHigh c.toNat := by
    rintro ⟨hlow, -⟩
    omega
  have hc : ¬IsLow c.toNat := by
    rintro ⟨hlow, -⟩
    omega
  have hspells := Spells.unit (writes_control h) ho hc hs
  rwa [Char.ofNat_toNat] at hspells

/-- **A written character spells itself.** -/
theorem spells_escape (c : Char) {b s : List Char} (hs : Spells b s) :
    Spells (escape c ++ b) (c :: s) := by
  -- the characters with an escape of their own, the other control characters, and all the rest
  unfold escape
  split_ifs with h h h h h h h h
  · exact .char (.short (by rw [h]; decide)) hs
  · exact .char (.short (by rw [h]; decide)) hs
  · exact .char (.short (by rw [h]; decide)) hs
  · exact .char (.short (by rw [h]; decide)) hs
  · exact .char (.short (by rw [h]; decide)) hs
  · exact .char (.short (by rw [h]; decide)) hs
  · exact .char (.short (by rw [h]; decide)) hs
  · exact spells_control h hs
  · exact .char (.plain ‹_› ‹_› h) hs

/-- **A written literal spells the text that it was written for.** -/
theorem spells_flatMap_escape (s : List Char) : Spells (s.flatMap escape) s := by
  induction s with
  | nil => exact .nil
  | cons c s ih => exact spells_escape c ih

theorem literalOf_quote (s : String) : LiteralOf s (quote s.toList) :=
  ⟨_, spells_flatMap_escape s.toList, rfl⟩

end Json

end ActivityFeed
