import ActivityFeed.Mailbox.Row
import ActivityFeed.Proofs.Timeline

/-!
# The cursor and the order of rows

Storage sorts and selects rows by their milliseconds, while a page is sorted and selected by
instants. The two agree, and this file says how far:

* a row was stored before a cursor exactly if its event happened before the instant of the cursor
  (`ActivityFeed.Row.ctime_lt_cursorMillis_iff`), as long as that instant is not in a leap second;
* rows whose times the calendar reaches stand in the order of their events
  (`ActivityFeed.Row.precedes_toEvent`).

A clock shows an *ordinary* instant (`ActivityFeed.Instant.Ordinary`) if the calendar reaches it and
it is not in a leap second. What is stored at such an instant is read back as the millisecond that
the instant lies in.
-/

namespace ActivityFeed

namespace Instant

/-! ### Milliseconds as instants -/

theorem ofMillis_lt_ofMillis {a b : ℤ} : ofMillis a < ofMillis b ↔ a < b := by
  simp only [lt_def, ofMillis]
  omega

theorem ofMillis_inj {a b : ℤ} : ofMillis a = ofMillis b ↔ a = b := by
  refine ⟨fun h => ?_, congrArg ofMillis⟩
  rw [← millis_ofMillis a, h, millis_ofMillis]

theorem not_inLeapSecond_ofMillis (ms : ℤ) : ¬(ofMillis ms).InLeapSecond := by
  simp only [InLeapSecond, ofMillis]
  omega

/-- **The cursor is exact**: a millisecond lies before the cursor of an instant exactly if it begins
before that instant. -/
theorem lt_cursorMillis_iff {ms : ℤ} {t : Instant} (h : ¬t.InLeapSecond) :
    ms < t.cursorMillis ↔ ofMillis ms < t := by
  simp only [InLeapSecond] at h
  simp only [lt_def, ofMillis, cursorMillis, millis]
  split <;> omega

/-- What is stored of an instant does not lie before a millisecond exactly if the instant does not. -/
theorem le_millis_iff {ms : ℤ} {t : Instant} (h : ¬t.InLeapSecond) :
    ms ≤ t.millis ↔ ofMillis ms ≤ t := by
  simp only [InLeapSecond] at h
  simp only [le_def, ofMillis, millis]
  omega

/-! ### Ordinary instants -/

/-- The calendar reaches the instant, and it is not in a leap second. -/
def Ordinary (t : Instant) : Prop := t.InCalendar ∧ ¬t.InLeapSecond

instance (t : Instant) : Decidable t.Ordinary := inferInstanceAs (Decidable (_ ∧ _))

theorem Ordinary.milliInCalendar {t : Instant} (h : t.Ordinary) : MilliInCalendar t.millis := by
  obtain ⟨⟨hfirst, hlast⟩, hleap⟩ := h
  simp only [InLeapSecond] at hleap
  simp only [dayNumber] at hfirst hlast
  simp only [MilliInCalendar, firstMilli, lastMilli, millis, daySecs] at hfirst hlast ⊢
  omega

theorem ofMillis?_eq_some {ms : ℤ} (h : MilliInCalendar ms) : ofMillis? ms = some (ofMillis ms) :=
  if_pos h

end Instant

namespace Row

theorem precedes_trans (a b c : Row) (hab : a.precedes b = true) (hbc : b.precedes c = true) :
    a.precedes c = true := by
  simp only [precedes, decide_eq_true_eq] at *
  omega

theorem precedes_total (a b : Row) : (a.precedes b || b.precedes a) = true := by
  simp only [precedes, Bool.or_eq_true, decide_eq_true_eq]
  omega

/-- A row whose time the calendar reaches is read as the beginning of its millisecond. -/
theorem createdAt_eq {r : Row} (h : Instant.MilliInCalendar r.ctime) :
    r.createdAt = Instant.ofMillis r.ctime := by
  rw [createdAt, Instant.ofMillis?_eq_some h, Option.getD_some]

/-- **A row is before a cursor exactly if its event is.** -/
theorem ctime_lt_cursorMillis_iff {r : Row} {before : Instant}
    (h : Instant.MilliInCalendar r.ctime) (hb : ¬before.InLeapSecond) :
    r.ctime < before.cursorMillis ↔ r.createdAt < before := by
  rw [createdAt_eq h]
  exact Instant.lt_cursorMillis_iff hb

/-- Which rows are wanted may be settled first, and which of them lie before a time afterwards. -/
theorem filter_wanted (rows : List Row) (tag : String) (owns : ℤ → Bool) (ms : ℤ) :
    (rows.filter fun r => r.tag == tag && decide (r.ctime < ms) && owns r.uid) =
      (rows.filter fun r => r.tag == tag && owns r.uid).filter fun r => decide (r.ctime < ms) := by
  rw [List.filter_filter]
  refine List.filter_congr fun r _ => ?_
  rw [Bool.and_right_comm, Bool.and_comm]

/-- What lies before a time is found among what lies before a later one. -/
theorem filter_ctime_lt {a b : ℤ} (h : a ≤ b) (rows : List Row) :
    (rows.filter fun r => decide (r.ctime < b)).filter (fun r => decide (r.ctime < a)) =
      rows.filter fun r => decide (r.ctime < a) := by
  rw [List.filter_filter]
  refine List.filter_congr fun r _ => ?_
  rw [← Bool.decide_and]
  exact decide_eq_decide.mpr (and_iff_left_of_imp fun hlt => Int.lt_of_lt_of_le hlt h)

/-- **Rows stand in the order of their events.** -/
theorem precedes_toEvent {a b : Row} (ha : Instant.MilliInCalendar a.ctime)
    (hb : Instant.MilliInCalendar b.ctime) : a.precedes b = a.toEvent.precedes b.toEvent := by
  rw [precedes, FeedEvent.precedes, toEvent, toEvent, createdAt_eq ha, createdAt_eq hb]
  exact decide_eq_decide.mpr
    (or_congr Instant.ofMillis_lt_ofMillis.symm (and_congr_left' Instant.ofMillis_inj.symm))

/-- Sorting rows and reading them is reading them and sorting the events. -/
theorem map_toEvent_mergeSort {rows : List Row} (h : ∀ r ∈ rows, Instant.MilliInCalendar r.ctime) :
    (rows.mergeSort precedes).map toEvent = newestFirst (rows.map toEvent) :=
  List.map_mergeSort fun a ha b hb => precedes_toEvent (h a ha) (h b hb)

end Row

end ActivityFeed
