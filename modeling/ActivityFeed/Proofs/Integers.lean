import ActivityFeed.Proofs.Grammar
import ActivityFeed.Proofs.Numerals
import ActivityFeed.Text.Blank

/-!
# Integers that people write

Settings and fields come as texts, and a text stands for an integer of a range if, apart from blanks
around it, it is a sign and digits (`ActivityFeed.Text.IntegerText`) and the number lies in the range
(`ActivityFeed.Text.SpellsInteger`). Both signs may be left out, and any number of zeros may stand
in front. A minus sign belongs to the texts of a range only if there are numbers below zero, so it
is refused in front of a zero as well where there are none.

A reader goes through the digits from the left and gives up at the digit that leaves the range.
Numbers only grow on the way, so nothing is given up too early, and nothing wraps around
(`ActivityFeed.Text.readInteger_eq_ok_iff`). It gives up at the first problem
(`ActivityFeed.Text.Misspelt`), and never without one
(`ActivityFeed.Text.readInteger_eq_error_iff`).
-/

namespace ActivityFeed

namespace Text

open Json (Digits)

/-! ### The texts of integers -/

/-- The number that digits make up. -/
def decimalValue (ds : List Char) : ℕ := Nat.ofDigitChars 10 ds 0

/-- **The texts of integers**: an optional sign and digits. -/
inductive IntegerText (r : IntegerRange) : List Char → ℤ → Prop where
  /-- There is no sign. -/
  | plain {ds : List Char} (h : Digits ds) : IntegerText r ds (decimalValue ds)
  /-- A sign without effect. -/
  | plus {ds : List Char} (h : Digits ds) : IntegerText r ('+' :: ds) (decimalValue ds)
  /-- The sign of negative numbers, where the range has such. -/
  | minus {ds : List Char} (hr : r.below ≠ none) (h : Digits ds) :
    IntegerText r ('-' :: ds) (-(decimalValue ds : ℤ))

/-- **The first problem among digits**, which are read on top of a number: up to there everything is a
digit, and the number has not left the bound. -/
inductive DigitProblem (bound : ℕ) (beyond : IntegerFault) (acc : ℕ) :
    List Char → IntegerFault → Prop where
  /-- Something is no digit. -/
  | strange {ds rest : List Char} {c : Char} (hds : ∀ d ∈ ds, d.isDigit = true)
      (hle : Nat.ofDigitChars 10 ds acc ≤ bound) (hc : c.isDigit = false) :
      DigitProblem bound beyond acc (ds ++ c :: rest) .invalidDigit
  /-- A digit takes the number out of the bound. -/
  | leaving {ds rest : List Char} {c : Char} (hds : ∀ d ∈ ds, d.isDigit = true)
      (hle : Nat.ofDigitChars 10 ds acc ≤ bound) (hc : c.isDigit = true)
      (hgt : bound < Nat.ofDigitChars 10 (ds ++ [c]) acc) :
      DigitProblem bound beyond acc (ds ++ c :: rest) beyond

/-- **Why a text is none of the texts of integers of the range**: its first problem from the left. -/
inductive Misspelt (r : IntegerRange) : List Char → IntegerFault → Prop where
  /-- There is nothing. -/
  | nothing : Misspelt r [] .empty
  /-- A sign stands alone. -/
  | alone {c : Char} (hc : c = '+' ∨ c = '-' ∧ r.below ≠ none) : Misspelt r [c] .invalidDigit
  /-- There is no sign that could be read, and there is a problem from the first character on. -/
  | plain {c : Char} {cs : List Char} {f : IntegerFault} (hplus : c ≠ '+')
      (hminus : c = '-' → r.below = none)
      (h : DigitProblem r.above .tooLarge 0 (c :: cs) f) : Misspelt r (c :: cs) f
  /-- There is a problem behind the sign without effect. -/
  | plus {cs : List Char} {f : IntegerFault} (h : DigitProblem r.above .tooLarge 0 cs f) :
    Misspelt r ('+' :: cs) f
  /-- There is a problem behind the sign of negative numbers. -/
  | minus {cs : List Char} {f : IntegerFault} {b : ℕ} (hb : r.below = some b)
      (h : DigitProblem b .tooSmall 0 cs f) : Misspelt r ('-' :: cs) f

/-- **The text stands for an integer of the range**, with blanks around it. -/
def SpellsInteger (r : IntegerRange) (s : List Char) (n : ℤ) : Prop :=
  ∃ w t w', s = w ++ (t ++ w') ∧ (∀ c ∈ w, isBlank c = true) ∧ (∀ c ∈ w', isBlank c = true) ∧
    IntegerText r t n ∧ r.Holds n

/-! ### Reading digits -/

variable {bound : ℕ} {beyond : IntegerFault}

/-- Further digits make no number smaller. -/
theorem le_ofDigitChars (ds : List Char) (n : ℕ) : n ≤ Nat.ofDigitChars 10 ds n := by
  induction ds generalizing n with
  | nil => exact Nat.le_refl _
  | cons c ds ih =>
    rw [Nat.ofDigitChars_cons]
    exact Nat.le_trans (by omega) (ih _)

/-- **Digits are read as the number that they make up**, unless it leaves the bound. -/
theorem readDigits_eq_ok_iff {ds : List Char} {acc v : ℕ} (hacc : acc ≤ bound) :
    readDigits bound beyond acc ds = .ok v ↔
      (∀ c ∈ ds, c.isDigit = true) ∧ Nat.ofDigitChars 10 ds acc = v ∧ v ≤ bound := by
  induction ds generalizing acc with
  | nil =>
    rw [readDigits, Nat.ofDigitChars_nil, Except.ok.injEq]
    constructor
    · rintro rfl
      exact ⟨List.forall_mem_nil _, rfl, hacc⟩
    · exact fun h => h.2.1
  | cons c ds ih =>
    rw [readDigits, digitValue?, List.forall_mem_cons, Nat.ofDigitChars_cons]
    by_cases hc : c.isDigit = true
    · rw [if_pos hc]
      dsimp only
      split
      · rename_i hle
        rw [ih hle, and_iff_right hc]
      · rename_i hgt
        -- the bound was left, and the remaining digits do not lead back
        refine iff_of_false (fun h => nomatch h) fun ⟨_, hv, hle⟩ => hgt ?_
        exact Nat.le_trans (le_ofDigitChars ds _) (hv ▸ hle)
    · rw [if_neg hc]
      exact iff_of_false (fun h => nomatch h) fun h => hc h.1.1

theorem readMagnitude_eq_ok_iff {ds : List Char} {v : ℕ} :
    readMagnitude bound beyond ds = .ok v ↔ Digits ds ∧ decimalValue ds = v ∧ v ≤ bound := by
  cases ds with
  | nil => exact iff_of_false (fun h => nomatch h) fun h => h.1.1 rfl
  | cons c ds =>
    rw [readMagnitude, readDigits_eq_ok_iff (Nat.zero_le _), Digits,
      and_iff_right (List.cons_ne_nil _ _), decimalValue]

/-! ### Reading integers -/

theorem IntegerText.ne_nil {r : IntegerRange} {s : List Char} {n : ℤ} (h : IntegerText r s n) :
    s ≠ [] := by
  cases h with
  | plain h => exact h.1
  | plus _ => exact List.cons_ne_nil _ _
  | minus _ _ => exact List.cons_ne_nil _ _

/-- Neither signs nor digits are blank. -/
theorem IntegerText.not_isBlank {r : IntegerRange} {s : List Char} {n : ℤ}
    (h : IntegerText r s n) : ∀ c ∈ s, isBlank c = false := by
  cases h with
  | plain h => exact fun c hc => not_isBlank_of_isDigit (h.2 c hc)
  | plus h =>
    exact List.forall_mem_cons.mpr ⟨by decide, fun c hc => not_isBlank_of_isDigit (h.2 c hc)⟩
  | minus _ h =>
    exact List.forall_mem_cons.mpr ⟨by decide, fun c hc => not_isBlank_of_isDigit (h.2 c hc)⟩

/-- Digits do not begin with a sign. -/
theorem not_digits_cons {c : Char} (hc : c.isDigit = false) (cs : List Char) :
    ¬Digits (c :: cs) := fun h => by
  rw [h.2 c List.mem_cons_self] at hc
  cases hc

/-- What becomes of the number that digits are read as. -/
theorem map_readMagnitude_eq_ok_iff {f : ℕ → ℤ} {ds : List Char} {n : ℤ} :
    (readMagnitude bound beyond ds).map f = .ok n ↔
      Digits ds ∧ decimalValue ds ≤ bound ∧ f (decimalValue ds) = n := by
  cases hread : readMagnitude bound beyond ds with
  | error e =>
    refine iff_of_false (fun h => nomatch h) fun ⟨hd, hle, _⟩ => ?_
    have hok : readMagnitude bound beyond ds = .ok (decimalValue ds) :=
      readMagnitude_eq_ok_iff.mpr ⟨hd, rfl, hle⟩
    rw [hread] at hok
    cases hok
  | ok v =>
    obtain ⟨hd, rfl, hle⟩ := readMagnitude_eq_ok_iff.mp hread
    rw [and_iff_right hd, and_iff_right hle]
    exact Except.ok.injEq (f _) n ▸ Iff.rfl

/-- A number that is not negative can only be too large. -/
theorem holds_natCast {r : IntegerRange} {n : ℕ} : r.Holds (n : ℤ) ↔ n ≤ r.above := by
  rw [IntegerRange.Holds]
  omega

/-- A number that is not positive can only be too small. -/
theorem holds_neg_natCast {r : IntegerRange} {b n : ℕ} (hb : r.below = some b) :
    r.Holds (-(n : ℤ)) ↔ n ≤ b := by
  rw [IntegerRange.Holds, hb, Option.getD_some]
  omega

/-- Behind a plus sign a number is read that is not negative. -/
theorem readInteger_plus (r : IntegerRange) (cs : List Char) :
    readInteger r ('+' :: cs) =
      (readMagnitude r.above .tooLarge cs).map fun n : ℕ => (n : ℤ) := by
  unfold readInteger
  dsimp only
  rw [if_pos rfl]
  cases readMagnitude r.above .tooLarge cs <;> rfl

/-- Behind a minus sign a number is read that is not positive, if there are such. -/
theorem readInteger_minus {r : IntegerRange} {b : ℕ} (hb : r.below = some b) (cs : List Char) :
    readInteger r ('-' :: cs) = (readMagnitude b .tooSmall cs).map fun n : ℕ => -(n : ℤ) := by
  unfold readInteger
  dsimp only
  rw [if_neg (by decide)]
  simp only [hb]
  cases readMagnitude b .tooSmall cs <;> rfl

/-- Everything else is read without a sign. -/
theorem readInteger_plain {r : IntegerRange} {c : Char} (hplus : c ≠ '+')
    (hminus : c = '-' → r.below = none) (cs : List Char) :
    readInteger r (c :: cs) =
      (readMagnitude r.above .tooLarge (c :: cs)).map fun n : ℕ => (n : ℤ) := by
  unfold readInteger
  dsimp only
  rw [if_neg hplus]
  split
  · rename_i b hb
    rw [hminus rfl] at hb
    cases hb
  · cases readMagnitude r.above .tooLarge _ <;> rfl

/-- A text begins with a sign without effect, without a sign, or with the sign of negative numbers. -/
theorem sign_cases (r : IntegerRange) (c : Char) :
    c = '+' ∨ (c ≠ '+' ∧ (c = '-' → r.below = none)) ∨ c = '-' ∧ ∃ b, r.below = some b := by
  by_cases hplus : c = '+'
  · exact .inl hplus
  · by_cases hminus : c = '-' → r.below = none
    · exact .inr (.inl ⟨hplus, hminus⟩)
    · obtain ⟨hc, hbelow⟩ := Classical.not_imp.mp hminus
      exact .inr (.inr ⟨hc, Option.ne_none_iff_exists'.mp hbelow⟩)

/-- **An integer is read exactly from its texts**, and nothing beyond the range is read. -/
theorem readInteger_eq_ok_iff {r : IntegerRange} {s : List Char} {n : ℤ} :
    readInteger r s = .ok n ↔ IntegerText r s n ∧ r.Holds n := by
  cases s with
  | nil => exact iff_of_false (fun h => nomatch h) fun h => h.1.ne_nil rfl
  | cons c cs =>
    rcases sign_cases r c with rfl | ⟨hplus, hminus⟩ | ⟨rfl, b, hb⟩
    · rw [readInteger_plus, map_readMagnitude_eq_ok_iff]
      constructor
      · rintro ⟨hd, hle, rfl⟩
        exact ⟨.plus hd, holds_natCast.mpr hle⟩
      · rintro ⟨ht, hr⟩
        cases ht with
        | plain h => exact absurd h (not_digits_cons (by decide) cs)
        | plus h => exact ⟨h, holds_natCast.mp hr, rfl⟩
    · rw [readInteger_plain hplus hminus, map_readMagnitude_eq_ok_iff]
      constructor
      · rintro ⟨hd, hle, rfl⟩
        exact ⟨.plain hd, holds_natCast.mpr hle⟩
      · rintro ⟨ht, hr⟩
        cases ht with
        | plain h => exact ⟨h, holds_natCast.mp hr, rfl⟩
        | plus _ => exact absurd rfl hplus
        | minus hbelow _ => exact absurd (hminus rfl) hbelow
    · rw [readInteger_minus hb, map_readMagnitude_eq_ok_iff]
      constructor
      · rintro ⟨hd, hle, rfl⟩
        exact ⟨.minus (Option.ne_none_iff_exists'.mpr ⟨b, hb⟩) hd, (holds_neg_natCast hb).mpr hle⟩
      · rintro ⟨ht, hr⟩
        cases ht with
        | plain h => exact absurd h (not_digits_cons (by decide) cs)
        | minus _ h => exact ⟨h, (holds_neg_natCast hb).mp hr, rfl⟩

/-- An integer is written as one of its texts. -/
theorem integerText_signed {r : IntegerRange} (hr : r.below ≠ none) (n : ℤ) :
    IntegerText r (signed n) n := by
  have hdigits : Digits (digits n.natAbs) :=
    ⟨digits_ne_nil n.natAbs, fun _ => isDigit_of_mem_digits⟩
  have hvalue : decimalValue (digits n.natAbs) = n.natAbs := ofDigitChars_digits n.natAbs
  by_cases hneg : n < 0
  · have htext : IntegerText r ('-' :: digits n.natAbs) _ := .minus hr hdigits
    rw [hvalue, Int.ofNat_natAbs_of_nonpos (by omega), Int.neg_neg] at htext
    rwa [signed, if_pos hneg]
  · have htext : IntegerText r (digits n.natAbs) _ := .plain hdigits
    rw [hvalue, Int.natAbs_of_nonneg (by omega)] at htext
    rwa [signed, if_neg hneg]

/-! ### The first problem -/

variable {f : IntegerFault}

/-- Digits that stay in the bound are passed. -/
theorem readDigits_append {ds : List Char} {acc : ℕ} (hds : ∀ d ∈ ds, d.isDigit = true)
    (hle : Nat.ofDigitChars 10 ds acc ≤ bound) (cs : List Char) :
    readDigits bound beyond acc (ds ++ cs) =
      readDigits bound beyond (Nat.ofDigitChars 10 ds acc) cs := by
  induction ds generalizing acc with
  | nil => rfl
  | cons d ds ih =>
    obtain ⟨hd, hds⟩ := List.forall_mem_cons.mp hds
    rw [Nat.ofDigitChars_cons] at hle ⊢
    -- the number grows on the way, so it does not leave the bound before the end
    have hfirst : 10 * acc + (d.toNat - '0'.toNat) ≤ bound :=
      Nat.le_trans (le_ofDigitChars ds _) hle
    rw [List.cons_append, readDigits, digitValue?, if_pos hd]
    dsimp only
    rw [if_pos hfirst, ih hds hle]

/-- A digit that stays in the bound is no problem. -/
theorem DigitProblem.cons {c : Char} {cs : List Char} {acc : ℕ} (hc : c.isDigit = true)
    (h : DigitProblem bound beyond (10 * acc + (c.toNat - '0'.toNat)) cs f) :
    DigitProblem bound beyond acc (c :: cs) f := by
  cases h with
  | @strange ds rest d hds hle hd =>
    have hle : Nat.ofDigitChars 10 (c :: ds) acc ≤ bound := by rwa [Nat.ofDigitChars_cons]
    exact .strange (List.forall_mem_cons.mpr ⟨hc, hds⟩) hle hd
  | @leaving ds rest d hds hle hd hgt =>
    have hle : Nat.ofDigitChars 10 (c :: ds) acc ≤ bound := by rwa [Nat.ofDigitChars_cons]
    have hgt : bound < Nat.ofDigitChars 10 (c :: ds ++ [d]) acc := by
      rwa [List.cons_append, Nat.ofDigitChars_cons]
    exact .leaving (List.forall_mem_cons.mpr ⟨hc, hds⟩) hle hd hgt

/-- **Reading digits fails at their first problem.** -/
theorem readDigits_eq_error_iff {cs : List Char} {acc : ℕ} (hacc : acc ≤ bound) :
    readDigits bound beyond acc cs = .error f ↔ DigitProblem bound beyond acc cs f := by
  constructor
  · intro h
    induction cs generalizing acc with
    | nil => cases h
    | cons c cs ih =>
      rw [readDigits, digitValue?] at h
      by_cases hc : c.isDigit = true
      · rw [if_pos hc] at h
        dsimp only at h
        split at h
        · rename_i hle
          exact (ih hle h).cons hc
        · rename_i hgt
          obtain rfl := Except.error.inj h
          exact @DigitProblem.leaving _ _ _ [] cs c (List.forall_mem_nil _) hacc hc (Nat.lt_of_not_le hgt)
      · rw [if_neg hc] at h
        obtain rfl := Except.error.inj h
        exact @DigitProblem.strange _ _ _ [] cs c (List.forall_mem_nil _) hacc (eq_false_of_ne_true hc)
  · intro h
    cases h with
    | strange hds hle hc =>
      rw [readDigits_append hds hle, readDigits, digitValue?, hc]
      rfl
    | leaving hds hle hc hgt =>
      rw [Nat.ofDigitChars_append, Nat.ofDigitChars_cons, Nat.ofDigitChars_nil] at hgt
      rw [readDigits_append hds hle, readDigits, digitValue?, if_pos hc]
      dsimp only
      rw [if_neg (Nat.not_le_of_gt hgt)]

theorem DigitProblem.ne_nil {cs : List Char} {acc : ℕ}
    (h : DigitProblem bound beyond acc cs f) : cs ≠ [] := by
  cases h with
  | strange _ _ _ => exact List.append_ne_nil_of_right_ne_nil _ (List.cons_ne_nil _ _)
  | leaving _ _ _ _ => exact List.append_ne_nil_of_right_ne_nil _ (List.cons_ne_nil _ _)

/-- Where no number is read, it does not matter what would become of it. -/
theorem map_readMagnitude_eq_error_iff {g : ℕ → ℤ} {cs : List Char} :
    (readMagnitude bound beyond cs).map g = .error f ↔
      cs = [] ∧ f = .invalidDigit ∨ DigitProblem bound beyond 0 cs f := by
  have hmap : (readMagnitude bound beyond cs).map g = .error f ↔
      readMagnitude bound beyond cs = .error f := by
    cases readMagnitude bound beyond cs <;> simp [Except.map]
  rw [hmap]
  cases cs with
  | nil =>
    rw [readMagnitude, Except.error.injEq]
    constructor
    · rintro rfl
      exact .inl ⟨rfl, rfl⟩
    · rintro (⟨-, rfl⟩ | h)
      · rfl
      · exact absurd rfl h.ne_nil
  | cons c cs =>
    rw [readMagnitude, readDigits_eq_error_iff (Nat.zero_le _)]
    exact (or_iff_right fun h => List.cons_ne_nil c cs h.1).symm

/-- **An integer is refused because of the first problem of its text.** -/
theorem readInteger_eq_error_iff {r : IntegerRange} {s : List Char} :
    readInteger r s = .error f ↔ Misspelt r s f := by
  cases s with
  | nil =>
    rw [readInteger, Except.error.injEq]
    constructor
    · rintro rfl
      exact .nothing
    · intro h
      cases h with
      | nothing => rfl
  | cons c cs =>
    rcases sign_cases r c with rfl | ⟨hplus, hminus⟩ | ⟨rfl, b, hb⟩
    · rw [readInteger_plus, map_readMagnitude_eq_error_iff]
      constructor
      · rintro (⟨rfl, rfl⟩ | h)
        · exact .alone (.inl rfl)
        · exact .plus h
      · intro h
        cases h with
        | alone _ => exact .inl ⟨rfl, rfl⟩
        | plain hplus _ _ => exact absurd rfl hplus
        | plus h => exact .inr h
    · rw [readInteger_plain hplus hminus, map_readMagnitude_eq_error_iff]
      constructor
      · rintro (⟨hnil, -⟩ | h)
        · cases hnil
        · exact .plain hplus hminus h
      · intro h
        cases h with
        | alone hc =>
          rcases hc with hc | ⟨hc, hbelow⟩
          · exact absurd hc hplus
          · exact absurd (hminus hc) hbelow
        | plain _ _ h => exact .inr h
        | plus _ => exact absurd rfl hplus
        | minus hb _ => cases (hminus rfl).symm.trans hb
    · have hbelow : r.below ≠ none := Option.ne_none_iff_exists'.mpr ⟨b, hb⟩
      rw [readInteger_minus hb, map_readMagnitude_eq_error_iff]
      constructor
      · rintro (⟨rfl, rfl⟩ | h)
        · exact .alone (.inr ⟨rfl, hbelow⟩)
        · exact .minus hb h
      · intro h
        cases h with
        | alone _ => exact .inl ⟨rfl, rfl⟩
        | plain _ hminus _ => exact absurd (hminus rfl) hbelow
        | minus hb' h =>
          obtain rfl := Option.some.inj (hb.symm.trans hb')
          exact .inr h

/-- **With its blanks taken away, a text is read exactly if it stands for an integer of the
range.** -/
theorem readInteger_trim_eq_ok_iff {r : IntegerRange} {s : List Char} {n : ℤ} :
    readInteger r (trim s) = .ok n ↔ SpellsInteger r s n := by
  rw [readInteger_eq_ok_iff]
  constructor
  · rintro ⟨ht, hr⟩
    obtain ⟨w, w', hs, hw, hw'⟩ := (trimmed_trim s).around
    exact ⟨w, trim s, w', hs, hw, hw', ht, hr⟩
  · rintro ⟨w, t, w', rfl, hw, hw', ht, hr⟩
    rw [trim_append hw ht.not_isBlank hw']
    exact ⟨ht, hr⟩

theorem SpellsInteger.holds {r : IntegerRange} {s : List Char} {n : ℤ}
    (h : SpellsInteger r s n) : r.Holds n := by
  obtain ⟨_, _, _, -, -, -, -, hr⟩ := h
  exact hr

/-- A text spells one integer at most. -/
theorem SpellsInteger.unique {r : IntegerRange} {s : List Char} {n n' : ℤ}
    (h : SpellsInteger r s n) (h' : SpellsInteger r s n') : n = n' := by
  rw [← readInteger_trim_eq_ok_iff] at h h'
  exact Except.ok.inj (h.symm.trans h')

end Text

end ActivityFeed
