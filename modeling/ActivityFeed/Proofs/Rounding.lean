import ActivityFeed.Proofs.Conversion

/-!
# The cursor as a number

The store compares whole milliseconds, and an instant has nanoseconds. So the instant up to which is
to be read is replaced by a number, and the numbers below it have to be those of the milliseconds
that begin before the instant. At a whole millisecond that number is the millisecond itself, and
anywhere else it is the one that follows, which the calendar does not reach if the instant lies in its
last millisecond.

This file says that there was no choice. A number *marks* an instant (`ActivityFeed.Instant.Marks`)
if it tells apart the milliseconds of the calendar that begin before the instant and the others, and
every instant of the calendar outside of leap seconds is marked by its cursor and by no other number
(`ActivityFeed.Instant.marks_iff`). One less would hide a millisecond and one more would repeat one,
before 1970 and at both ends of the calendar as well.

A cursor that is taken from a stored event stands at the beginning of its millisecond. What is found
with it was stored in an earlier millisecond, and all of that is found
(`ActivityFeed.Instant.cursorMillis_exact`).
-/

namespace ActivityFeed

namespace Instant

variable {t before : Instant} {c k : ℤ}

/-- **The numbers that are read as instants**: a number is read as the instant of the calendar at
which its millisecond begins. -/
theorem ofMillis?_eq_some_iff : ofMillis? c = some t ↔ t.Ordinary ∧ t.WholeMilli ∧ t.millis = c := by
  constructor
  · intro h
    by_cases hc : MilliInCalendar c
    · obtain rfl := Option.some.inj ((ofMillis?_eq_some hc).symm.trans h)
      exact ⟨ordinary_ofMillis hc, wholeMilli_ofMillis c, millis_ofMillis c⟩
    · rw [ofMillis?, if_neg hc] at h
      cases h
  · rintro ⟨hordinary, hwhole, rfl⟩
    rw [ofMillis?_eq_some hordinary.milliInCalendar,
      (ofMillis_millis_eq_self_iff hordinary.2).mpr hwhole]

theorem eq_ofMillis_of_ofMillis? (h : ofMillis? c = some t) : t = ofMillis c := by
  obtain ⟨hordinary, hwhole, rfl⟩ := ofMillis?_eq_some_iff.mp h
  exact ((ofMillis_millis_eq_self_iff hordinary.2).mpr hwhole).symm

/-- The cursor of an instant lies at most one millisecond behind the calendar. -/
theorem cursorMillis_le_lastMilli_add_one (h : t.Ordinary) : t.cursorMillis ≤ lastMilli + 1 := by
  have hlast := le_lastMilli_of_lt_cursorMillis h (Int.sub_one_lt_of_le (Int.le_refl _))
  omega

/-- **The number marks the instant**: of the numbers that are read as instants, those below it are
read as earlier ones and no others are. -/
structure Marks (before : Instant) (k : ℤ) : Prop where
  /-- It does not lie in front of the calendar. -/
  first : firstMilli ≤ k
  /-- It lies at most one millisecond behind it. -/
  last : k ≤ lastMilli + 1
  /-- It stands at the right place between the others. -/
  between : ∀ (c : ℤ) (t : Instant), ofMillis? c = some t → (c < k ↔ t < before)

/-- **An instant is marked by its cursor, and by no other number.** -/
theorem marks_iff (h : before.Ordinary) : before.Marks k ↔ k = before.cursorMillis := by
  have hfirst := firstMilli_le_cursorMillis h.1
  have hlast := cursorMillis_le_lastMilli_add_one h
  constructor
  · rintro ⟨hkFirst, hkLast, hbetween⟩
    have hsame : ∀ c, MilliInCalendar c → (c < k ↔ c < before.cursorMillis) := fun c hc =>
      (hbetween c _ (ofMillis?_eq_some hc)).trans (lt_cursorMillis_iff h.2).symm
    -- the smaller one of two different numbers would be on both sides of the other
    rcases lt_trichotomy k before.cursorMillis with hlt | heq | hgt
    · have hin : MilliInCalendar k := ⟨hkFirst, by omega⟩
      exact absurd ((hsame k hin).mpr hlt) (Int.lt_irrefl _)
    · exact heq
    · have hin : MilliInCalendar before.cursorMillis := ⟨hfirst, by omega⟩
      exact absurd ((hsame _ hin).mp hgt) (Int.lt_irrefl _)
  · rintro rfl
    refine ⟨hfirst, hlast, fun c t hc => ?_⟩
    rw [eq_ofMillis_of_ofMillis? hc]
    exact lt_cursorMillis_iff h.2

end Instant

namespace Store

/-- What an answer without a limit consists of. -/
theorem mem_scan_iff {s : Store} {m : Mailbox} {tag : String} {owns : ℤ → Bool} {before : Instant}
    {limit : ℕ} {r : Row} (hlimit : (s.rows m).length ≤ limit) :
    r ∈ s.scan m tag owns before limit ↔
      r ∈ s.rows m ∧ r.tag = tag ∧ owns r.uid = true ∧ r.ctime < before.cursorMillis := by
  rw [scan, List.take_of_length_le, (List.mergeSort_perm _ _).mem_iff, List.mem_filter]
  · simp only [Bool.and_eq_true, beq_iff_eq, decide_eq_true_eq]
    rw [and_right_comm, and_assoc]
  · rw [List.length_mergeSort]
    exact (List.length_filter_le _ _).trans hlimit

end Store

namespace Instant

/-- **The cursor is exact.** The numbers that are read as instants, without falling back to 1970, are
those of the milliseconds of the calendar, and they are read as the beginnings of these. Such a number
lies below the cursor of any instant outside of leap seconds exactly if it is read as an earlier one,
and the cursor of the instant that it is read as is the number itself, so that what happened at any
time is left out with that cursor exactly if it did not happen before the millisecond. For the
instants of the calendar cursors do not leave it by more than one millisecond, and no other numbers
would do. So a store finds the wanted rows that are read as earlier instants, and with a cursor that
is taken from an event it finds the wanted rows with smaller numbers. -/
theorem cursorMillis_exact :
    (∀ (c : ℤ) (t : Instant),
        ofMillis? c = some t ↔ t.Ordinary ∧ t.WholeMilli ∧ t.millis = c) ∧
      (∀ (c : ℤ) (t : Instant), ofMillis? c = some t →
        (∀ before : Instant, ¬before.InLeapSecond → (c < before.cursorMillis ↔ t < before)) ∧
          t.cursorMillis = c ∧
          ∀ u : Instant, ¬u.InLeapSecond → (t.cursorMillis ≤ u.millis ↔ t ≤ u)) ∧
      (∀ before : Instant, before.Ordinary →
        ∀ k : ℤ, before.Marks k ↔ k = before.cursorMillis) ∧
      ∀ (s : Store) (m : Mailbox) (tag : String) (owns : ℤ → Bool) (limit : ℕ),
        (s.rows m).length ≤ limit → ∀ r : Row,
          (∀ t, ofMillis? r.ctime = some t → ∀ before : Instant, ¬before.InLeapSecond →
            (r ∈ s.scan m tag owns before limit ↔
              r ∈ s.rows m ∧ r.tag = tag ∧ owns r.uid = true ∧ t < before)) ∧
          ∀ c t, ofMillis? c = some t →
            (r ∈ s.scan m tag owns t limit ↔
              r ∈ s.rows m ∧ r.tag = tag ∧ owns r.uid = true ∧ r.ctime < c) := by
  refine ⟨fun c t => ofMillis?_eq_some_iff, fun c t hc => ?_, fun before h k => marks_iff h,
    fun s m tag owns limit hlimit r => ⟨fun t hc before h => ?_, fun c t hc => ?_⟩⟩
  · obtain rfl := eq_ofMillis_of_ofMillis? hc
    refine ⟨fun before h => lt_cursorMillis_iff h, cursorMillis_ofMillis c, fun u h => ?_⟩
    rw [cursorMillis_ofMillis, le_millis_iff h]
  · obtain rfl := eq_ofMillis_of_ofMillis? hc
    rw [Store.mem_scan_iff hlimit, lt_cursorMillis_iff h]
  · obtain rfl := eq_ofMillis_of_ofMillis? hc
    rw [Store.mem_scan_iff hlimit, cursorMillis_ofMillis]

/-- The last nanosecond of the calendar. -/
def latest : Instant := ⟨8210266876799, 999999999⟩

/-- The first nanosecond of the calendar. -/
def earliest : Instant := ⟨-8334601228800, 0⟩

end Instant

/-- Three likes at the end of 1969, of which two share the last millisecond. -/
def Store.endOf1969 : Store where
  inbox := [⟨1, 1, "like_event", "\x7b\x7d", -2⟩, ⟨2, 1, "like_event", "\x7b\x7d", -1⟩,
    ⟨3, 1, "like_event", "\x7b\x7d", -1⟩]
  outbox := []
  issued := 3

namespace Instant

/-- The last millisecond of the calendar lies before its last nanosecond, which is marked by a number
that the calendar does not reach, and not by that millisecond. The first millisecond does not lie
before the first nanosecond, but before the second one. And a cursor taken from one of two likes in
the last millisecond of 1969 leaves out both of them and not the like before, while a cursor one
nanosecond later finds them. -/
theorem cursorMillis_exact_atTheEnds :
    ofMillis? lastMilli = some ⟨8210266876799, 999000000⟩ ∧ latest.Ordinary ∧
      lastMilli < latest.cursorMillis ∧ latest.Marks (lastMilli + 1) ∧ ¬latest.Marks lastMilli ∧
      ofMillis? firstMilli = some earliest ∧ earliest.Ordinary ∧
      ¬firstMilli < earliest.cursorMillis ∧
      ¬(⟨-8334601228800, 1⟩ : Instant).InLeapSecond ∧
      firstMilli < (⟨-8334601228800, 1⟩ : Instant).cursorMillis ∧
      ofMillis? (-1) = some ⟨-1, 999000000⟩ ∧
      (⟨-1, 999000000⟩ : Instant).cursorMillis ≤ (⟨-1, 999000000⟩ : Instant).millis ∧
      (Store.endOf1969.rows .inbox).length ≤ 3 ∧
      (∀ r, r ∈ Store.endOf1969.scan .inbox "like_event" (· == 1) ⟨-1, 999000000⟩ 3 ↔
        r = ⟨1, 1, "like_event", "\x7b\x7d", -2⟩) ∧
      ¬(⟨-1, 999000001⟩ : Instant).InLeapSecond ∧
      ⟨3, 1, "like_event", "\x7b\x7d", -1⟩ ∈
        Store.endOf1969.scan .inbox "like_event" (· == 1) ⟨-1, 999000001⟩ 3 := by
  obtain ⟨-, hread, hmarks, hfound⟩ := cursorMillis_exact
  have hlast : ofMillis? lastMilli = some ⟨8210266876799, 999000000⟩ := by decide
  have hfirst : ofMillis? firstMilli = some earliest := by decide
  have hend : ofMillis? (-1) = some ⟨-1, 999000000⟩ := by decide
  have hlatest : latest.Ordinary := by decide
  have hearliest : earliest.Ordinary := by decide
  have hsecond : ¬(⟨-8334601228800, 1⟩ : Instant).InLeapSecond := by decide
  have hlater : ¬(⟨-1, 999000001⟩ : Instant).InLeapSecond := by decide
  have hlength : (Store.endOf1969.rows .inbox).length ≤ 3 := by decide
  obtain ⟨hlastBefore, -, -⟩ := hread _ _ hlast
  obtain ⟨hfirstBefore, -, -⟩ := hread _ _ hfirst
  obtain ⟨-, -, hleftOut⟩ := hread _ _ hend
  have hrows := hfound Store.endOf1969 .inbox "like_event" (· == 1) 3 hlength
  refine ⟨hlast, hlatest, (hlastBefore latest hlatest.2).mpr (by decide),
    (hmarks latest hlatest _).mpr (by decide), fun h => ?_, hfirst, hearliest,
    fun h => ?_, hsecond, (hfirstBefore _ hsecond).mpr (by decide), hend,
    (hleftOut _ (by decide)).mpr (by decide), hlength, fun r => ?_, hlater, ?_⟩
  · exact absurd ((hmarks latest hlatest _).mp h) (by decide)
  · exact absurd ((hfirstBefore earliest hearliest.2).mp h) (by decide)
  · rw [(hrows r).2 _ _ hend]
    constructor
    · rintro ⟨hr, -, -, hearlier⟩
      simp only [Store.rows, Store.endOf1969, List.mem_cons, List.not_mem_nil, or_false] at hr
      rcases hr with rfl | rfl | rfl
      · rfl
      · exact absurd hearlier (by decide)
      · exact absurd hearlier (by decide)
    · rintro rfl
      exact ⟨List.mem_cons_self, rfl, rfl, by decide⟩
  · refine ((hrows _).1 _ hend _ hlater).mpr ⟨?_, rfl, rfl, by decide⟩
    exact List.mem_cons_of_mem _ (List.mem_cons_of_mem _ List.mem_cons_self)

end Instant

end ActivityFeed
