import ActivityFeed.Json.Token
import Mathlib.Data.List.Basic
import Mathlib.Tactic.SplitIfs

/-!
# Text as bytes and back

A message is sent as the UTF-8 bytes of its text. A reader of bytes takes those of a character
together (`ActivityFeed.Text.glyphs_encode_append`), so a text is read as its characters, and what
follows it is read as if it stood alone (`ActivityFeed.Text.glyphs_utf8_append`).

A character has one to four bytes, and a reader tries the short forms first. That they do not fit is
told by the first byte alone.
-/

namespace ActivityFeed

namespace Text

/-- The bytes of a text. -/
def utf8 (s : List Char) : List UInt8 := s.flatMap String.utf8EncodeChar

/-! ### Bytes by their numbers -/

theorem toNat_ofNat {n : ℕ} (h : n < 256) : (UInt8.ofNat n).toNat = n :=
  UInt8.toNat_ofNat_of_lt' h

theorem lt_ofNat_iff {n m : ℕ} (hn : n < 256) (hm : m < 256) :
    UInt8.ofNat n < UInt8.ofNat m ↔ n < m := by
  rw [UInt8.lt_iff_toNat_lt, toNat_ofNat hn, toNat_ofNat hm]

theorem le_ofNat_iff {n m : ℕ} (hn : n < 256) (hm : m < 256) :
    UInt8.ofNat n ≤ UInt8.ofNat m ↔ n ≤ m := by
  rw [UInt8.le_iff_toNat_le, toNat_ofNat hn, toNat_ofNat hm]

/-- A byte lies between two bounds if its number does. -/
theorem ofNat_between_iff {n l u : ℕ} (hn : n < 256) (hl : l < 256) (hh : u < 256) :
    (UInt8.ofNat l ≤ UInt8.ofNat n ∧ UInt8.ofNat n ≤ UInt8.ofNat u) ↔
      l ≤ n ∧ n ≤ u := by
  rw [le_ofNat_iff hl hn, le_ofNat_iff hn hh]

theorem continuation?_ofNat {y : ℕ} (hy : y < 64) :
    continuation? (UInt8.ofNat (y + 0x80)) = some y := by
  have hbounds := (ofNat_between_iff (n := y + 0x80) (l := 0x80) (u := 0xBF) (by omega)
    (by omega) (by omega)).mpr (by omega)
  rw [continuation?, toNat_ofNat (by omega), Nat.add_sub_cancel]
  exact if_pos hbounds

/-! ### Several bytes -/

theorem character2?_ofNat {x y : ℕ} (hx : x < 32) (hy : y < 64) :
    character2? (UInt8.ofNat (x + 0xC0)) (UInt8.ofNat (y + 0x80)) =
      character? 0x80 (x * 64 + y) := by
  have hbounds := (ofNat_between_iff (n := x + 0xC0) (l := 0xC0) (u := 0xDF) (by omega)
    (by omega) (by omega)).mpr (by omega)
  rw [character2?, continuation?_ofNat hy, toNat_ofNat (by omega), Nat.add_sub_cancel]
  exact if_pos hbounds

theorem character3?_ofNat {x y z : ℕ} (hx : x < 16) (hy : y < 64) (hz : z < 64) :
    character3? (UInt8.ofNat (x + 0xE0)) (UInt8.ofNat (y + 0x80)) (UInt8.ofNat (z + 0x80)) =
      character? 0x800 ((x * 64 + y) * 64 + z) := by
  have hbounds := (ofNat_between_iff (n := x + 0xE0) (l := 0xE0) (u := 0xEF) (by omega)
    (by omega) (by omega)).mpr (by omega)
  rw [character3?, continuation?_ofNat hy, continuation?_ofNat hz, toNat_ofNat (by omega),
    Nat.add_sub_cancel]
  exact if_pos hbounds

theorem character4?_ofNat {x y z w : ℕ} (hx : x < 8) (hy : y < 64) (hz : z < 64) (hw : w < 64) :
    character4? (UInt8.ofNat (x + 0xF0)) (UInt8.ofNat (y + 0x80)) (UInt8.ofNat (z + 0x80))
        (UInt8.ofNat (w + 0x80)) =
      character? 0x10000 (((x * 64 + y) * 64 + z) * 64 + w) := by
  have hbounds := (ofNat_between_iff (n := x + 0xF0) (l := 0xF0) (u := 0xF7) (by omega)
    (by omega) (by omega)).mpr (by omega)
  rw [character4?, continuation?_ofNat hy, continuation?_ofNat hz, continuation?_ofNat hw,
    toNat_ofNat (by omega), Nat.add_sub_cancel]
  exact if_pos hbounds

/-- The first of three or four bytes is not the first of two. -/
theorem character2?_eq_none {n : ℕ} (hn : n < 256) (h : 0xE0 ≤ n) (b : UInt8) :
    character2? (UInt8.ofNat n) b = none := by
  have hbounds := (ofNat_between_iff (l := 0xC0) (u := 0xDF) hn (by omega) (by omega)).not.mpr
    (by omega)
  rw [character2?]
  cases continuation? b with
  | none => rfl
  | some y => exact if_neg hbounds

/-- The first of four bytes is not the first of three. -/
theorem character3?_eq_none {n : ℕ} (hn : n < 256) (h : 0xF0 ≤ n) (b c : UInt8) :
    character3? (UInt8.ofNat n) b c = none := by
  have hbounds := (ofNat_between_iff (l := 0xE0) (u := 0xEF) hn (by omega) (by omega)).not.mpr
    (by omega)
  rw [character3?]
  cases continuation? b with
  | none => rfl
  | some y =>
    cases continuation? c with
    | none => rfl
    | some z => exact if_neg hbounds

/-! ### The glyph at the head -/

theorem leading_one {n : ℕ} (h : n < 0x80) (rest : List UInt8) :
    leading (UInt8.ofNat n) rest = (some (Char.ofNat n), 0) := by
  have hlt : UInt8.ofNat n < UInt8.ofNat 0x80 := (lt_ofNat_iff (by omega) (by omega)).mpr h
  rw [leading.eq_def, toNat_ofNat (by omega)]
  exact if_pos hlt

/-- A byte that is no character of its own is looked at together with the next ones. -/
theorem not_ofNat_lt_ascii {n : ℕ} (hn : n < 256) (h : 0x80 ≤ n) : ¬UInt8.ofNat n < 0x80 := by
  have hlt := (lt_ofNat_iff (m := 0x80) hn (by omega)).not.mpr (by omega)
  exact hlt

theorem leading_two {n : ℕ} {b : UInt8} {ch : Char} (hn : n < 256) (h : 0x80 ≤ n)
    (hread : character2? (UInt8.ofNat n) b = some ch) (rest : List UInt8) :
    leading (UInt8.ofNat n) (b :: rest) = (some ch, 1) := by
  rw [leading.eq_def, if_neg (not_ofNat_lt_ascii hn h)]
  simp only [hread]

theorem leading_three {n : ℕ} {b c : UInt8} {ch : Char} (hn : n < 256) (h : 0xE0 ≤ n)
    (hread : character3? (UInt8.ofNat n) b c = some ch) (rest : List UInt8) :
    leading (UInt8.ofNat n) (b :: c :: rest) = (some ch, 2) := by
  rw [leading.eq_def, if_neg (not_ofNat_lt_ascii hn (by omega))]
  simp only [character2?_eq_none hn h, hread]

theorem leading_four {n : ℕ} {b c d : UInt8} {ch : Char} (hn : n < 256) (h : 0xF0 ≤ n)
    (hread : character4? (UInt8.ofNat n) b c d = some ch) (rest : List UInt8) :
    leading (UInt8.ofNat n) (b :: c :: d :: rest) = (some ch, 3) := by
  rw [leading.eq_def, if_neg (not_ofNat_lt_ascii hn (by omega))]
  simp only [character2?_eq_none hn (by omega), character3?_eq_none hn h, hread]

theorem glyphs_of_leading {a : UInt8} {rest : List UInt8} {g : Glyph} {k : ℕ}
    (h : leading a rest = (g, k)) : glyphs (a :: rest) = g :: glyphs (rest.drop k) := by
  rw [glyphs, h]

/-! ### Characters and texts -/

theorem character?_eq_some {c : Char} {least code : ℕ} (hcode : code = c.toNat)
    (hleast : least ≤ code) : character? least code = some c := by
  subst hcode
  rw [character?, if_pos ⟨hleast, c.valid⟩, Char.ofNat_toNat]

/-- **The bytes of a character are taken together**, whatever follows them. -/
theorem glyphs_encode_append (c : Char) (rest : List UInt8) :
    glyphs (String.utf8EncodeChar c ++ rest) = some c :: glyphs rest := by
  have hmax : c.toNat < 0x110000 := by
    rcases c.valid with h | ⟨-, h⟩
    · exact Nat.lt_trans h (by decide)
    · exact h
  have hval : c.val.toNat = c.toNat := rfl
  rw [String.utf8EncodeChar]
  show glyphs ((if c.toNat ≤ 0x7f then _ else _) ++ rest) = _
  -- one to four bytes
  split_ifs with h1 h2 h3
  · have hread := leading_one (n := c.toNat) (by omega) rest
    rw [Char.ofNat_toNat] at hread
    exact glyphs_of_leading hread
  · refine glyphs_of_leading (leading_two (by omega) (by omega) ?_ rest)
    rw [character2?_ofNat (by omega) (by omega)]
    exact character?_eq_some (by omega) (by omega)
  · refine glyphs_of_leading (leading_three (by omega) (by omega) ?_ rest)
    rw [character3?_ofNat (by omega) (by omega) (by omega)]
    exact character?_eq_some (by omega) (by omega)
  · refine glyphs_of_leading (leading_four (by omega) (by omega) ?_ rest)
    rw [character4?_ofNat (by omega) (by omega) (by omega) (by omega)]
    exact character?_eq_some (by omega) (by omega)

/-- **The bytes of a text are read as its characters**, and what follows as if it stood alone. -/
theorem glyphs_utf8_append (s : List Char) (rest : List UInt8) :
    glyphs (utf8 s ++ rest) = ofChars s ++ glyphs rest := by
  induction s with
  | nil => rfl
  | cons c s ih =>
    rw [utf8, List.flatMap_cons, List.append_assoc, glyphs_encode_append]
    exact congrArg (some c :: ·) ih

/-! ### Blank bytes

White space is ASCII, so a text that is blank as characters is blank as bytes. -/

/-- The byte is a space, a tab, a line feed or a carriage return. -/
def isSpaceByte (b : UInt8) : Bool := b == 0x20 || b == 0x09 || b == 0x0A || b == 0x0D

/-- Bytes of white space. -/
def BlankBytes (bytes : List UInt8) : Prop := ∀ b ∈ bytes, isSpaceByte b = true

instance (bytes : List UInt8) : Decidable (BlankBytes bytes) :=
  List.decidableBAll (fun b => isSpaceByte b = true) bytes

theorem isSpace_ofNat : ∀ n < 128, Json.isSpace (Char.ofNat n) = isSpaceByte (UInt8.ofNat n) := by
  decide

theorem isSpaceByte_of_ascii {a : UInt8} (h : a < 0x80) :
    Json.isSpace (Char.ofNat a.toNat) = isSpaceByte a := by
  have hspace := isSpace_ofNat a.toNat (UInt8.lt_iff_toNat_lt.mp h)
  rwa [UInt8.ofNat_toNat] at hspace

theorem not_isSpaceByte_of_not_ascii {a : UInt8} (h : ¬a < 0x80) : isSpaceByte a = false := by
  have hne : ∀ b : UInt8, b < 0x80 → (a == b) = false := by
    intro b hb
    rw [beq_eq_false_iff_ne]
    rintro rfl
    exact h hb
  rw [isSpaceByte, hne _ (by decide), hne _ (by decide), hne _ (by decide), hne _ (by decide)]
  rfl

/-- A character beyond ASCII is no white space. -/
theorem not_isSpace_of_character? {least code : ℕ} {c : Char} (hleast : 0x80 ≤ least)
    (h : character? least code = some c) : Json.isSpace c = false := by
  rw [character?] at h
  split at h
  case isFalse => cases h
  case isTrue hcode =>
    cases h
    have hne : ∀ d : Char, d.toNat < 0x80 → (Char.ofNat code == d) = false := by
      intro d hd
      rw [beq_eq_false_iff_ne]
      rintro rfl
      have hnum : (Char.ofNat code).toNat = code := by
        rw [Char.ofNat, dif_pos hcode.2]
        rfl
      omega
    rw [Json.isSpace, hne _ (by decide), hne _ (by decide), hne _ (by decide), hne _ (by decide)]
    rfl

theorem not_isSpace_of_character2? {a b : UInt8} {ch : Char} (h : character2? a b = some ch) :
    Json.isSpace ch = false := by
  obtain ⟨y, -, h⟩ := Option.bind_eq_some_iff.mp h
  split at h
  · exact not_isSpace_of_character? (by omega) h
  · cases h

theorem not_isSpace_of_character3? {a b c : UInt8} {ch : Char}
    (h : character3? a b c = some ch) : Json.isSpace ch = false := by
  obtain ⟨y, -, h⟩ := Option.bind_eq_some_iff.mp h
  obtain ⟨z, -, h⟩ := Option.bind_eq_some_iff.mp h
  split at h
  · exact not_isSpace_of_character? (by omega) h
  · cases h

theorem not_isSpace_of_character4? {a b c d : UInt8} {ch : Char}
    (h : character4? a b c d = some ch) : Json.isSpace ch = false := by
  obtain ⟨y, -, h⟩ := Option.bind_eq_some_iff.mp h
  obtain ⟨z, -, h⟩ := Option.bind_eq_some_iff.mp h
  obtain ⟨w, -, h⟩ := Option.bind_eq_some_iff.mp h
  split at h
  · exact not_isSpace_of_character? (by omega) h
  · cases h

/-- Where several bytes begin, no white space begins. -/
theorem not_isSpace_leading {a : UInt8} (h : ¬a < 0x80) (rest : List UInt8) :
    (leading a rest).1.any Json.isSpace = false := by
  fun_cases leading a rest with
  | case1 _ hlt => exact absurd hlt h
  | case3 _ _ _ _ hread => exact not_isSpace_of_character2? hread
  | case5 _ _ _ _ _ _ hread => exact not_isSpace_of_character3? hread
  | case7 _ _ _ _ _ _ _ _ hread => exact not_isSpace_of_character4? hread
  | _ => rfl

/-- **Bytes are read as white space exactly if they are blank.** -/
theorem glyphs_blank_iff (bytes : List UInt8) :
    (∀ g ∈ glyphs bytes, g.any Json.isSpace = true) ↔ BlankBytes bytes := by
  fun_induction glyphs bytes with
  | case1 => exact iff_of_true (List.forall_mem_nil _) (List.forall_mem_nil _)
  | case2 a rest ih =>
    rw [BlankBytes, List.forall_mem_cons, List.forall_mem_cons, ih]
    by_cases ha : a < 0x80
    · have hlead : leading a rest = (some (Char.ofNat a.toNat), 0) := by
        rw [leading.eq_def, if_pos ha]
      rw [hlead, List.drop_zero, ← isSpaceByte_of_ascii ha]
      rfl
    · rw [not_isSpace_leading ha, not_isSpaceByte_of_not_ascii ha]
      exact iff_of_false (fun h => Bool.noConfusion h.1) fun h => Bool.noConfusion h.1

end Text

end ActivityFeed
