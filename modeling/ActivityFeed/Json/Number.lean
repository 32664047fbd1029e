import ActivityFeed.Text.Decimal
import ActivityFeed.Text.Glyph

/-!
# Number literals

A JSON number is a text, and readers care about three things only: whether it is a plain integer
of 64 bits, whether it is some other number that a binary floating point format of 64 bits can
hold, or whether it is too large even for that. Nothing here computes with floating point: the
roundings that decide about overflow are carried out on natural numbers.

* `ActivityFeed.Json.Number` – the three classes;
* `ActivityFeed.Json.number?` – reads the literal at the head of a text, and what follows it.

Negative zero is no integer here, since no integer of 64 bits is written that way.
-/

namespace ActivityFeed

namespace Json

open Text

/-- What a number literal stands for. -/
inductive Number where
  /-- A plain integer between `-2 ^ 63` and `2 ^ 64 - 1`. -/
  | int (n : Int)
  /-- Any other number that does not overflow a floating point value. -/
  | float
  /-- A number that overflows. -/
  | huge
  deriving DecidableEq, Repr

/-- A glyph that is an ASCII digit. -/
def isDigit (g : Glyph) : Bool := g.any Char.isDigit

/-- The run of digits at the head of a text. -/
def leadingDigits (s : List Glyph) : List Char := (s.takeWhile isDigit).filterMap id

/-- What follows the run of digits at the head of a text. -/
def afterDigits (s : List Glyph) : List Glyph := s.dropWhile isDigit

/-- The value of a sequence of digits. -/
def natural (ds : List Char) : Nat := ds.foldl (fun n c => 10 * n + (c.toNat - '0'.toNat)) 0

/-! ### Overflow

A literal is held as a binary number of 53 digits times a power of two. Its leading decimal digits,
as many as a word of 64 bits takes, and the power of ten behind them are rounded to 53 binary digits
each, and the product is what must not overflow. -/

/-- The nearest number with 53 binary digits and zeros behind them; of two that are equally near,
the one whose last digit is even. -/
def nearestBinary (n : Nat) : Nat :=
  let unit := Nat.pow 2 (n.log2 + 1 - 53)
  let q := n / unit
  let twice := 2 * (n % unit)
  if unit < twice ∨ unit = twice ∧ q % 2 = 1 then (q + 1) * unit else q * unit

/-- The first number that rounds to infinity: half a unit above the largest finite value. -/
def overflowBound : Nat := Nat.pow 2 1024 - Nat.pow 2 970

/-- The number that the leading digits make up behind `n`, as long as it fits into a word, and how
many digits are left. -/
def leadingValue (n : Nat) : List Char → Nat × Nat
  | [] => (n, 0)
  | c :: cs =>
    let m := 10 * n + (c.toNat - '0'.toNat)
    if m ≤ 18446744073709551615 then leadingValue m cs else (n, cs.length + 1)

/-- The largest exponent of a power of ten that does not overflow. -/
def largestExponent : Int := 308

/-- The class of the number written with the digits `ds`, times ten to the power `exponent`. -/
def magnitude (ds : List Char) (exponent : Int) : Number :=
  let (value, left) := leadingValue 0 ds
  let exponent := exponent + left
  if value = 0 ∨ exponent < 0 then .float
  else if largestExponent < exponent then .huge
  else if overflowBound ≤ nearestBinary value * nearestBinary (Nat.pow 10 exponent.toNat) then .huge
  else .float

/-! ### Literals -/

/-- The class of an integer literal. -/
def integer (negative : Bool) (ds : List Char) : Number :=
  let n := natural ds
  if negative then
    if 0 < n ∧ n ≤ 9223372036854775808 then .int (-(n : Int)) else magnitude ds 0
  else if n ≤ 18446744073709551615 then .int n
  else magnitude ds 0

/-- The sign at the head of a text, as the truth value of "negative". -/
def takeMinus : List Glyph → Bool × List Glyph
  | some '-' :: s => (true, s)
  | s => (false, s)

/-- The digits of the fraction at the head of a text: none if there is no point, a failure if no
digit follows it. -/
def fraction? : List Glyph → Option (List Char × List Glyph)
  | some '.' :: s =>
    if leadingDigits s = [] then none else some (leadingDigits s, afterDigits s)
  | s => some ([], s)

/-- The sign of an exponent, as the truth value of "negative". -/
def takeSign : List Glyph → Bool × List Glyph
  | some '+' :: s => (false, s)
  | s => takeMinus s

/-- The exponent that follows its letter: an optional sign and at least one digit. -/
def exponentDigits? (s : List Glyph) : Option (Int × List Glyph) :=
  let digits := leadingDigits (takeSign s).2
  if digits = [] then none
  else
    let e : Int := natural digits
    some (if (takeSign s).1 then -e else e, afterDigits (takeSign s).2)

/-- The exponent at the head of a text: none if there is no letter for it, a failure if no digit
follows. -/
def exponent? : List Glyph → Option (Option Int × List Glyph)
  | some 'e' :: s => (exponentDigits? s).map fun r => (some r.1, r.2)
  | some 'E' :: s => (exponentDigits? s).map fun r => (some r.1, r.2)
  | s => some (none, s)

/-- The number literal at the head of a text, and what follows it; a failure if the text does not
begin with one. A leading zero stands alone. -/
def number? (s : List Glyph) : Option (Number × List Glyph) := do
  let (negative, s) := takeMinus s
  let whole := leadingDigits s
  if whole = [] ∨ (whole.head? = some '0' ∧ 1 < whole.length) then none
  else
    let (part, s) ← fraction? (afterDigits s)
    let (exponent, s) ← exponent? s
    if part = [] ∧ exponent = none then some (integer negative whole, s)
    else some (magnitude (whole ++ part) (exponent.getD 0 - part.length), s)

/-! ### What follows a literal is part of the text -/

theorem length_afterDigits_le (s : List Glyph) : (afterDigits s).length ≤ s.length :=
  (List.dropWhile_sublist _).length_le

/-- A run of digits that is not empty takes up room. -/
theorem length_afterDigits_lt {s : List Glyph} (h : leadingDigits s ≠ []) :
    (afterDigits s).length < s.length := by
  cases s with
  | nil => exact absurd rfl h
  | cons g s =>
    by_cases hg : isDigit g = true
    · simpa [afterDigits, hg] using Nat.lt_succ_of_le (length_afterDigits_le s)
    · simp [leadingDigits, hg] at h

theorem length_takeMinus_le (s : List Glyph) : (takeMinus s).2.length ≤ s.length := by
  unfold takeMinus
  split <;> simp

theorem length_of_fraction? {s r : List Glyph} {ds : List Char}
    (h : fraction? s = some (ds, r)) : r.length ≤ s.length := by
  unfold fraction? at h
  split at h
  · split at h
    · cases h
    · cases h
      exact Nat.le_succ_of_le (length_afterDigits_le _)
  · cases h
    exact Nat.le_refl _

theorem length_takeSign_le (s : List Glyph) : (takeSign s).2.length ≤ s.length := by
  unfold takeSign
  split
  · simp
  · exact length_takeMinus_le _

theorem length_of_exponentDigits? {s r : List Glyph} {e : Int}
    (h : exponentDigits? s = some (e, r)) : r.length ≤ s.length := by
  simp only [exponentDigits?] at h
  split at h
  · cases h
  · cases h
    exact Nat.le_trans (length_afterDigits_le _) (length_takeSign_le s)

theorem length_of_exponent? {s r : List Glyph} {e : Option Int}
    (h : exponent? s = some (e, r)) : r.length ≤ s.length := by
  unfold exponent? at h
  split at h
  · obtain ⟨⟨e', r'⟩, h', hr⟩ := Option.map_eq_some_iff.1 h
    cases hr
    exact Nat.le_succ_of_le (length_of_exponentDigits? h')
  · obtain ⟨⟨e', r'⟩, h', hr⟩ := Option.map_eq_some_iff.1 h
    cases hr
    exact Nat.le_succ_of_le (length_of_exponentDigits? h')
  · cases h
    exact Nat.le_refl _

/-- What follows a literal is shorter than the text. -/
theorem length_of_number? {s r : List Glyph} {n : Number} (h : number? s = some (n, r)) :
    r.length < s.length := by
  unfold number? at h
  simp only at h
  split at h
  · cases h
  · rename_i hw
    obtain ⟨⟨ds, t⟩, ht, h⟩ := Option.bind_eq_some_iff.1 h
    obtain ⟨⟨e, u⟩, hu, h⟩ := Option.bind_eq_some_iff.1 h
    have h₁ := length_of_fraction? ht
    have h₂ := length_of_exponent? hu
    have h₃ := length_afterDigits_lt fun he => hw (.inl he)
    have h₄ := length_takeMinus_le s
    have hr : r = u := by
      simp only at h
      split at h <;> cases h <;> rfl
    subst hr
    exact Nat.lt_of_le_of_lt (Nat.le_trans h₂ h₁) (Nat.lt_of_lt_of_le h₃ h₄)

example : (number? (ofChars "-0".toList)).map (·.1) = some .float := by rfl

example : (number? (ofChars "18446744073709551615,".toList)).map (·.1) =
    some (.int 18446744073709551615) := by rfl

example : number? (ofChars "01".toList) = none := by rfl

example : magnitude "17976931348623157".toList 292 = .float := by decide +kernel

example : magnitude "17976931348623158".toList 292 = .huge := by decide +kernel

end Json

end ActivityFeed
