import ActivityFeed.Proofs.Calendar
import ActivityFeed.Proofs.Numerals
import ActivityFeed.Time.Rfc3339

/-!
# Times as text and back

A reader of times takes many liberties, so that one has to see that none of them is taken with a
time that was written: a field ends where it should although more digits would be welcome, a year is
not taken for a year with a sign, and what follows the seconds is not taken for a fraction. Each
part of a time is read up to its end, whatever follows as long as it cannot belong to the part
(`ActivityFeed.Instant.year?_yearText`, `ActivityFeed.Instant.date?_dateText`,
`ActivityFeed.Instant.timeOfDay?_clockText`), and the whole is read as the instant that was written
(`ActivityFeed.Instant.ofText?_text`).

This holds of all *proper* instants (`ActivityFeed.Instant.Proper`): those that the calendar reaches
and that are not in the middle of a minute when they are in a leap second.
-/

namespace ActivityFeed

namespace Instant

open Text

/-! ### Proper instants -/

/-- **A proper instant**: the calendar reaches it, and if it is in a leap second, then in one that
ends a minute. -/
def Proper (t : Instant) : Prop :=
  t.InCalendar ∧ (t.nanos < 1000000000 ∨ t.nanos < 2000000000 ∧ t.secs % 60 = 59)

instance (t : Instant) : Decidable t.Proper := inferInstanceAs (Decidable (_ ∧ _))

/-! ### Numbers -/

/-- The text does not begin with a digit. -/
def NoDigit (s : List Char) : Prop := ∀ c ∈ s.head?, c.isDigit = false

theorem noDigit_cons {c : Char} (h : c.isDigit = false) (s : List Char) : NoDigit (c :: s) := by
  rintro d ⟨⟩
  exact h

theorem span_isDigit_append {ds s : List Char} (hd : ∀ c ∈ ds, c.isDigit = true)
    (hs : NoDigit s) :
    (ds ++ s).takeWhile Char.isDigit = ds ∧ (ds ++ s).dropWhile Char.isDigit = s := by
  rw [List.takeWhile_append_of_pos hd, List.dropWhile_append_of_pos hd]
  cases s with
  | nil => exact ⟨List.append_nil ds, rfl⟩
  | cons c s =>
    have hc : c.isDigit = false := hs c rfl
    rw [List.takeWhile_cons, List.dropWhile_cons, hc]
    exact ⟨List.append_nil ds, rfl⟩

/-- The reader of times and the library agree on what digits make up. -/
theorem numeral_padded (width n : ℕ) : numeral (padded width n) = n := ofDigitChars_padded width n

/-- **A written number is read**, if the reader takes as many digits as were written. -/
theorem number?_padded {width n most : ℕ} (h : (padded width n).length ≤ most) {s : List Char}
    (hs : NoDigit s) : number? most (padded width n ++ s) = some (n, s) := by
  have hdigits : ∀ c ∈ padded width n, c.isDigit = true := fun _ => isDigit_of_mem_padded
  rw [number?, digitsUpTo, (span_isDigit_append hdigits hs).1, List.take_of_length_le h,
    if_neg (padded_ne_nil width n), List.drop_left, numeral_padded]

/-- A written number begins with a digit. -/
theorem padded_eq_cons (width n : ℕ) : ∃ c r, padded width n = c :: r ∧ c.isDigit = true := by
  obtain ⟨c, r, h⟩ := List.exists_cons_of_ne_nil (padded_ne_nil width n)
  exact ⟨c, r, h, isDigit_of_mem_padded (h ▸ List.mem_cons_self)⟩

theorem trimStart_padded (width n : ℕ) (s : List Char) :
    trimStart (padded width n ++ s) = padded width n ++ s := by
  obtain ⟨c, r, h, hc⟩ := padded_eq_cons width n
  rw [h]
  exact trimStart_cons (not_isBlank_of_isDigit hc) _

/-- **A field of two digits is read.** -/
theorem field?_padded {n : ℕ} (h : n < 100) {s : List Char} (hs : NoDigit s) :
    field? (padded 2 n ++ s) = some (n, s) := by
  have hlength : (padded 2 n).length = 2 := length_padded (by omega) h
  rw [field?, trimStart_padded, number?_padded (Nat.le_of_eq hlength) hs]

theorem mark?_cons {c : Char} (h : isBlank c = false) (s : List Char) :
    mark? c (c :: s) = some s := by
  rw [mark?, trimStart_cons h]
  exact if_pos rfl

/-! ### Dates -/

theorem year?_minus (s : List Char) :
    year? ('-' :: s) = (number? s.length s).map fun r => (-(r.1 : ℤ), r.2) := rfl

theorem year?_plus (s : List Char) :
    year? ('+' :: s) = (number? s.length s).map fun r => ((r.1 : ℤ), r.2) := rfl

theorem year?_digit {c : Char} (h : c.isDigit = true) (s : List Char) :
    year? (c :: s) = (number? 4 (c :: s)).map fun r => ((r.1 : ℤ), r.2) := by
  unfold year?
  rw [trimStart_cons (not_isBlank_of_isDigit h)]
  -- a digit is no sign, so only the last case can occur
  split
  · rename_i heq
    cases heq
    cases h
  · rename_i heq
    cases heq
    cases h
  · rfl

/-- **A written year is read**, be it before the year zero or of more than four digits. -/
theorem year?_yearText (year : ℤ) {s : List Char} (hs : NoDigit s) :
    year? (yearText year ++ s) = some (year, s) := by
  -- with a sign the reader takes as many digits as there are
  have hroom : (padded 4 year.natAbs).length ≤ (padded 4 year.natAbs ++ s).length := by
    rw [List.length_append]
    exact Nat.le_add_right _ _
  unfold yearText
  split_ifs with hfour hneg
  · have hlength : (padded 4 year.natAbs).length = 4 :=
      length_padded (by omega) (show year.natAbs < 10000 by omega)
    have hread := number?_padded (Nat.le_of_eq hlength) hs
    obtain ⟨c, r, hcons, hc⟩ := padded_eq_cons 4 year.natAbs
    rw [hcons, List.cons_append] at hread ⊢
    rw [year?_digit hc, hread, Option.map_some, Int.natAbs_of_nonneg hfour.1]
  · rw [List.cons_append, year?_minus, number?_padded hroom hs, Option.map_some,
      Int.ofNat_natAbs_of_nonpos (by omega), Int.neg_neg]
  · rw [List.cons_append, year?_plus, number?_padded hroom hs, Option.map_some,
      Int.natAbs_of_nonneg (by omega)]

theorem daysInMonth_le (year : ℤ) (month : ℕ) : Date.daysInMonth year month ≤ 31 := by
  unfold Date.daysInMonth
  split_ifs <;> omega

/-- **A written date is read**, if it exists. -/
theorem date?_dateText {d : Date} (h : d.Exists) {s : List Char} (hs : NoDigit s) :
    date? (dateText d ++ s) = some (d, s) := by
  have hmonth : d.month < 100 := Nat.lt_of_le_of_lt h.2.2.2.1 (by omega)
  have hday : d.day < 100 :=
    Nat.lt_of_le_of_lt (Nat.le_trans h.2.2.2.2.2 (daysInMonth_le _ _)) (by omega)
  have htext : dateText d ++ s =
      yearText d.year ++ '-' :: (padded 2 d.month ++ '-' :: (padded 2 d.day ++ s)) := by
    simp only [dateText, List.append_assoc, List.cons_append]
  have hdash : ∀ s, NoDigit ('-' :: s) := noDigit_cons rfl
  rw [htext, date?, year?_yearText _ (hdash _)]
  simp only [Option.bind_eq_bind, Option.bind_some, mark?_cons (c := '-') rfl,
    field?_padded hmonth (hdash _), field?_padded hday hs]
  exact if_pos h

/-! ### Times of day -/

/-- A time of day is one: each part is in its range. -/
structure TimeOfDay.Sound (x : TimeOfDay) : Prop where
  /-- The hour. -/
  hour : x.hour < 24
  /-- The minute. -/
  minute : x.minute < 60
  /-- The second, where second sixty is a leap second. -/
  second : x.second ≤ 60
  /-- The fraction of the second. -/
  nanos : x.nanos < 1000000000

/-- The written form of a time of day. -/
def clockText (x : TimeOfDay) : List Char :=
  padded 2 x.hour ++ ':' :: (padded 2 x.minute ++ ':' :: (padded 2 x.second ++
    fractionText x.nanos))

/-- A fraction of at most nine digits counts in nanoseconds. -/
theorem fraction?_padded {width n : ℕ} (hpos : 0 < width) (hnine : width ≤ 9)
    (h : n < Nat.pow 10 width) {s : List Char} (hs : NoDigit s) :
    fraction? ('.' :: (padded width n ++ s)) = some (n * Nat.pow 10 (9 - width), s) := by
  have hlength := length_padded hpos h
  have hdigits : ∀ c ∈ padded width n, c.isDigit = true := fun _ => isDigit_of_mem_padded
  obtain ⟨htake, hdrop⟩ := span_isDigit_append hdigits hs
  rw [fraction?, digitsUpTo, htake, List.take_of_length_le (by omega),
    if_neg (padded_ne_nil width n), hdrop, numeral_padded, hlength]

/-- **The shortest exact fraction is read exactly.** -/
theorem fraction?_fractionText {nanos : ℕ} (h : nanos < 1000000000) :
    fraction? (fractionText nanos ++ ['Z']) = some (nanos, ['Z']) := by
  have hend : NoDigit ['Z'] := noDigit_cons rfl []
  unfold fractionText
  split_ifs with hzero hmilli hmicro
  · rw [hzero]
    rfl
  · have hexact : nanos / 1000000 * Nat.pow 10 (9 - 3) = nanos :=
      Nat.div_mul_cancel (Nat.dvd_of_mod_eq_zero hmilli)
    have hroom : nanos / 1000000 < Nat.pow 10 3 := show _ < 1000 by omega
    rw [List.cons_append, fraction?_padded (by omega) (by omega) hroom hend, hexact]
  · have hexact : nanos / 1000 * Nat.pow 10 (9 - 6) = nanos :=
      Nat.div_mul_cancel (Nat.dvd_of_mod_eq_zero hmicro)
    have hroom : nanos / 1000 < Nat.pow 10 6 := show _ < 1000000 by omega
    rw [List.cons_append, fraction?_padded (by omega) (by omega) hroom hend, hexact]
  · have hexact : nanos * Nat.pow 10 (9 - 9) = nanos := Nat.mul_one nanos
    rw [List.cons_append, fraction?_padded (by omega) (by omega) h hend, hexact]

/-- A fraction begins with a point, and if there is none, the letter of Greenwich follows. -/
theorem noDigit_fractionText (nanos : ℕ) : NoDigit (fractionText nanos ++ ['Z']) := by
  unfold fractionText
  split_ifs <;> exact noDigit_cons rfl _

/-- **A written time of day is read.** -/
theorem timeOfDay?_clockText {x : TimeOfDay} (h : x.Sound) :
    timeOfDay? (clockText x ++ ['Z']) = some (x, ['Z']) := by
  have htext : clockText x ++ ['Z'] = padded 2 x.hour ++ ':' :: (padded 2 x.minute ++ ':' ::
      (padded 2 x.second ++ (fractionText x.nanos ++ ['Z']))) := by
    simp only [clockText, List.append_assoc, List.cons_append]
  have hcolon : ∀ s, NoDigit (':' :: s) := noDigit_cons rfl
  have hhour : x.hour < 100 := Nat.lt_of_lt_of_le h.hour (by omega)
  have hminute : x.minute < 100 := Nat.lt_of_lt_of_le h.minute (by omega)
  have hsecond : x.second < 100 := Nat.lt_of_le_of_lt h.second (by omega)
  rw [htext, timeOfDay?]
  simp only [Option.bind_eq_bind, Option.bind_some, mark?_cons (c := ':') rfl,
    field?_padded hhour (hcolon _), field?_padded hminute (hcolon _),
    field?_padded hsecond (noDigit_fractionText _), fraction?_fractionText h.nanos]
  exact if_pos ⟨h.hour, h.minute, h.second⟩

/-! ### Instants -/

/-- A written date and time of day in Greenwich is read as their instant. -/
theorem ofText?_parts {d : Date} {x : TimeOfDay} (hd : d.Exists) (hx : x.Sound)
    (hcalendar : (ofLocal d x 0).InCalendar) :
    ofText? (dateText d ++ 'T' :: (clockText x ++ ['Z'])) = some (ofLocal d x 0) := by
  have hseparator : ∀ s, separator? ('T' :: s) = some s := fun _ => rfl
  rw [ofText?, date?_dateText hd (noDigit_cons rfl _)]
  simp only [Option.bind_eq_bind, Option.bind_some, hseparator, timeOfDay?_clockText hx]
  exact if_pos ⟨rfl, hcalendar⟩

/-- The time of day of an instant in Greenwich. A leap second counts on from the one before it. -/
def timeOfDay (t : Instant) : TimeOfDay :=
  let inDay := (t.secs % daySecs).toNat
  ⟨inDay / 3600, inDay / 60 % 60, inDay % 60 + t.nanos / 1000000000, t.nanos % 1000000000⟩

theorem text_eq (t : Instant) :
    t.text = dateText (Date.ofDays t.dayNumber) ++ 'T' :: (clockText t.timeOfDay ++ ['Z']) := by
  simp only [text, clockText, timeOfDay, List.append_assoc, List.cons_append]

/-- An instant has a time of day, with a leap second only where a minute ends. -/
theorem Proper.sound_timeOfDay {t : Instant} (h : t.Proper) : t.timeOfDay.Sound := by
  obtain ⟨-, hleap⟩ := h
  simp only [timeOfDay, daySecs]
  refine ⟨?_, ?_, ?_, ?_⟩ <;> dsimp only <;> omega

/-- **An instant is the time of day of its date**, in Greenwich. -/
theorem Proper.ofLocal_eq {t : Instant} (h : t.Proper) :
    ofLocal (Date.ofDays t.dayNumber) t.timeOfDay 0 = t := by
  obtain ⟨-, hleap⟩ := h
  apply Instant.ext
  · simp only [ofLocal, Date.toDays_ofDays, timeOfDay, dayNumber, daySecs]
    omega
  · simp only [ofLocal, timeOfDay, daySecs]
    omega

/-- **A written instant is read as it was**, before 1970 as well as after, in years of any number of
digits, with any fraction of a second, and in leap seconds. -/
theorem ofText?_text {t : Instant} (h : t.Proper) : ofText? t.text = some t := by
  have hdate : (Date.ofDays t.dayNumber).Exists := Date.exists_ofDays h.1.1 h.1.2
  have hread := ofText?_parts hdate h.sound_timeOfDay (h.ofLocal_eq.symm ▸ h.1)
  rwa [← text_eq, h.ofLocal_eq] at hread

end Instant

end ActivityFeed
