import ActivityFeed.Text.Blank
import ActivityFeed.Text.Decimal
import Mathlib.Data.Int.Notation
import Mathlib.Data.List.Basic
import Mathlib.Data.Nat.Notation

/-!
# Written numbers

What is known of the digits that are written for a number, whoever reads them: they are digits,
there is at least one, they make up the number again, and the first is no zero unless it is the only
one (`ActivityFeed.Text.digits_of_head?_eq_zero`). Zeros in front of them change their count to what
it should be (`ActivityFeed.Text.length_padded`) and nothing else. Numbers that people write may have
blanks around them, and trimming takes these away and nothing else
(`ActivityFeed.Text.trimmed_trim`).
-/

namespace ActivityFeed

namespace Text

/-! ### Digits -/

theorem digits_ne_nil (n : ℕ) : digits n ≠ [] :=
  List.ne_nil_of_length_pos Nat.length_toDigits_pos

theorem isDigit_of_mem_digits {n : ℕ} {c : Char} (h : c ∈ digits n) : c.isDigit = true :=
  Nat.isDigit_of_mem_toDigits (by omega) (by omega) h

/-- **The digits of a number make up that number.** -/
theorem ofDigitChars_digits (n : ℕ) : Nat.ofDigitChars 10 (digits n) 0 = n :=
  Nat.ofDigitChars_toDigits (by omega) (by omega)

/-- The last digit of a number stands behind the digits of the rest. -/
theorem digits_eq_append {n : ℕ} (h : 10 ≤ n) : digits n = digits (n / 10) ++ digits (n % 10) := by
  have hsplit := Nat.toDigits_append_toDigits (b := 10) (n := n / 10) (d := n % 10) (by omega)
    (by omega) (by omega)
  rw [Nat.div_add_mod] at hsplit
  exact hsplit.symm

/-- **The first digit is no zero**, unless it is the only digit. -/
theorem digits_of_head?_eq_zero {n : ℕ} (h : (digits n).head? = some '0') : digits n = ['0'] := by
  induction n using Nat.strongRecOn with
  | ind n ih =>
    rcases Nat.lt_or_ge n 10 with hn | hn
    · rw [digits, Nat.toDigits_of_lt_base hn] at h ⊢
      rw [List.head?_cons, Option.some_inj] at h
      rw [h]
    · -- the first digit is that of a smaller number, which would have to be zero
      rw [digits_eq_append hn, List.head?_append_of_ne_nil _ (digits_ne_nil _)] at h
      have hzero := ofDigitChars_digits (n / 10)
      rw [ih (n / 10) (by omega) h] at hzero
      have hzero : 0 = n / 10 := hzero
      omega

theorem length_digits_le {width n : ℕ} (hwidth : 0 < width) (h : n < Nat.pow 10 width) :
    (digits n).length ≤ width :=
  (Nat.length_toDigits_le_iff (by omega) hwidth).mpr h

/-! ### Digits with zeros in front -/

theorem padded_ne_nil (width n : ℕ) : padded width n ≠ [] :=
  fun h => digits_ne_nil n (List.append_eq_nil_iff.mp h).2

theorem isDigit_of_mem_padded {width n : ℕ} {c : Char} (h : c ∈ padded width n) :
    c.isDigit = true := by
  rcases List.mem_append.mp h with h | h
  · rw [List.eq_of_mem_replicate h]
    rfl
  · exact isDigit_of_mem_digits h

/-- **A number that has room is written in just that room.** -/
theorem length_padded {width n : ℕ} (hwidth : 0 < width) (h : n < Nat.pow 10 width) :
    (padded width n).length = width := by
  rw [padded, List.length_append, List.length_replicate]
  exact Nat.sub_add_cancel (length_digits_le hwidth h)

/-- Zeros in front of the digits do not count. -/
theorem ofDigitChars_padded (width n : ℕ) : Nat.ofDigitChars 10 (padded width n) 0 = n := by
  rw [padded, Nat.ofDigitChars_append, Nat.ofDigitChars_replicate_zero, Nat.mul_zero,
    ofDigitChars_digits]

/-! ### Blanks around numbers -/

/-- Digits are no blanks, so nothing is lost in front of a number. -/
theorem not_isBlank_of_isDigit {c : Char} (h : c.isDigit = true) : isBlank c = false := by
  simp only [Char.isDigit, Bool.and_eq_true, decide_eq_true_eq] at h
  have hlow : 48 ≤ c.toNat := h.1
  have hhigh : c.toNat ≤ 57 := h.2
  simp [isBlank, blankRanges]
  omega

theorem trimStart_cons {c : Char} (h : isBlank c = false) (s : List Char) :
    trimStart (c :: s) = c :: s := by
  rw [trimStart, List.dropWhile_cons, h]
  rfl

/-- Blanks in front are taken away, and nothing else. -/
theorem trimStart_append {w : List Char} (hw : ∀ c ∈ w, isBlank c = true) (s : List Char) :
    trimStart (w ++ s) = trimStart s := List.dropWhile_append_of_pos hw

/-- What was taken away in front is blank. -/
theorem exists_eq_append_trimStart (s : List Char) :
    ∃ w, s = w ++ trimStart s ∧ ∀ c ∈ w, isBlank c = true :=
  ⟨s.takeWhile isBlank, List.takeWhile_append_dropWhile.symm,
    List.all_eq_true.mp List.all_takeWhile⟩

/-- What was taken away behind is blank. -/
theorem exists_trimStart_eq_append (s : List Char) :
    ∃ w', trimStart s = trim s ++ w' ∧ ∀ c ∈ w', isBlank c = true := by
  obtain ⟨w', hrev, hw'⟩ := exists_eq_append_trimStart (trimStart s).reverse
  refine ⟨w'.reverse, ?_, fun c hc => hw' c (List.mem_reverse.mp hc)⟩
  rw [trim, ← List.reverse_append, ← hrev, List.reverse_reverse]

/-- **What is left of a text without the blanks at its two ends.** -/
structure Trimmed (s t : List Char) : Prop where
  /-- Only blanks stand around it. -/
  around : ∃ w w', s = w ++ (t ++ w') ∧ (∀ c ∈ w, isBlank c = true) ∧ ∀ c ∈ w', isBlank c = true
  /-- It does not begin with a blank. -/
  first : ∀ c, t.head? = some c → isBlank c = false
  /-- It does not end with one. -/
  last : ∀ c, t.getLast? = some c → isBlank c = false

theorem isBlank_of_head?_trimStart {s : List Char} {c : Char} (h : (trimStart s).head? = some c) :
    isBlank c = false := by
  have hnot := List.head?_dropWhile_not isBlank s
  rw [← trimStart, h] at hnot
  exact hnot

/-- Nothing is taken away from a text that does not begin with a blank. -/
theorem trimStart_eq_self {s : List Char} (h : ∀ c, s.head? = some c → isBlank c = false) :
    trimStart s = s := by
  cases s with
  | nil => rfl
  | cons c s => exact trimStart_cons (h c rfl) s

/-- Trimming leaves just that. -/
theorem trimmed_trim (s : List Char) : Trimmed s (trim s) where
  around := by
    obtain ⟨w, hs, hw⟩ := exists_eq_append_trimStart s
    obtain ⟨w', hstart, hw'⟩ := exists_trimStart_eq_append s
    exact ⟨w, w', by rwa [← hstart], hw, hw'⟩
  first c hc := by
    -- the text has begun like this since the blanks in front were taken away
    obtain ⟨w', hstart, -⟩ := exists_trimStart_eq_append s
    refine isBlank_of_head?_trimStart (s := s) ?_
    rw [hstart, List.head?_append, hc, Option.some_or]
  last c hc := by
    rw [trim, List.getLast?_reverse] at hc
    exact isBlank_of_head?_trimStart hc

/-- Blanks alone leave nothing. -/
theorem trim_of_blank {w : List Char} (h : ∀ c ∈ w, isBlank c = true) : trim w = [] := by
  have hstart := trimStart_append h []
  rw [List.append_nil] at hstart
  rw [trim, hstart]
  rfl

/-- A text has one such part only. -/
theorem Trimmed.trim_eq {s t : List Char} (h : Trimmed s t) : trim s = t := by
  obtain ⟨⟨w, w', rfl, hw, hw'⟩, hfirst, hlast⟩ := h
  by_cases hne : t = []
  · subst hne
    exact trim_of_blank (List.forall_mem_append.mpr ⟨hw, hw'⟩)
  · have hstart : trimStart (t ++ w') = t ++ w' := by
      refine trimStart_eq_self fun c hc => hfirst c ?_
      rwa [List.head?_append_of_ne_nil _ hne] at hc
    have hend : trimStart t.reverse = t.reverse := by
      refine trimStart_eq_self fun c hc => hlast c ?_
      rwa [List.head?_reverse] at hc
    rw [trim, trimStart_append hw, hstart, List.reverse_append,
      trimStart_append fun c hc => hw' c (List.mem_reverse.mp hc), hend, List.reverse_reverse]

/-- A text without blanks is what is left of it when there are blanks around. -/
theorem trim_append {w t w' : List Char} (hw : ∀ c ∈ w, isBlank c = true)
    (ht : ∀ c ∈ t, isBlank c = false) (hw' : ∀ c ∈ w', isBlank c = true) :
    trim (w ++ (t ++ w')) = t :=
  Trimmed.trim_eq ⟨⟨w, w', rfl, hw, hw'⟩, fun c hc => ht c (List.mem_of_mem_head? hc),
    fun c hc => ht c (List.mem_of_mem_getLast? hc)⟩

end Text

end ActivityFeed
