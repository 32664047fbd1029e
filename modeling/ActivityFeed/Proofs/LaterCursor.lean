import ActivityFeed.Mailbox.Store
import ActivityFeed.Proofs.Cursor
import ActivityFeed.Proofs.TimeText

/-!
# Asking with a later cursor

Whoever asks for all that is stored before an instant should see, asking with a later one, the same
and possibly more. Rows are chosen by their milliseconds, so what matters is whether the cursors of
the two instants stand in the order of the instants. Rounding keeps the order, but leap seconds do
not: the milliseconds of a leap second are counted on behind those of the second before it, which is
where those of the next second are counted too.

* `ActivityFeed.Instant.RunsPast` – the cursor of an instant in a leap second runs past that of an
  instant in the next second;
* `ActivityFeed.Store.scan_isSuffix` – a larger cursor adds rows in front and nothing else;
* `ActivityFeed.Store.addsOnly_iff` – so a later instant hides nothing exactly if the cursor of the
  earlier one does not run past its own. What it hides otherwise had not happened before the
  earlier instant anyway.
-/

namespace ActivityFeed

namespace Instant

/-! ### Cursors of two instants -/

/-- **The cursor of an instant runs past that of another one** in the next second. -/
structure RunsPast (a b : Instant) : Prop where
  /-- The first instant lies in a leap second. -/
  leap : a.InLeapSecond
  /-- The other one lies in the second that follows. -/
  next : b.secs = a.secs + 1
  /-- The cursor of the first is the larger one. -/
  cursor : b.cursorMillis < a.cursorMillis

variable {a b : Instant}

/-- **Cursors stand in the order of their instants**, unless the first runs past the second. -/
theorem cursorMillis_le_of_not_runsPast (hle : a ≤ b) (ha : a.nanos < 2000000000)
    (h : ¬a.RunsPast b) : a.cursorMillis ≤ b.cursorMillis := by
  by_contra hlt
  rw [not_le] at hlt
  refine h ⟨?_, ?_, hlt⟩
  all_goals
    simp only [le_def] at hle
    simp only [cursorMillis, millis, InLeapSecond] at hlt ⊢
    split at hlt <;> split at hlt <;> omega

/-- What lies between the two cursors then is earlier than neither of the two instants. -/
theorem RunsPast.lt_ofMillis (h : a.RunsPast b) (ha : a.nanos < 2000000000) {ms : ℤ}
    (hms : b.cursorMillis ≤ ms) : a < ofMillis ms ∧ ¬ofMillis ms < b := by
  obtain ⟨-, hnext, hlt⟩ := h
  -- a leap second of its own would put the second instant behind the first
  have hb : ¬b.InLeapSecond := by
    simp only [cursorMillis, millis, InLeapSecond] at hlt ⊢
    split at hlt <;> split at hlt <;> omega
  have hnot : ¬ofMillis ms < b := by
    rw [← lt_cursorMillis_iff hb]
    omega
  refine ⟨?_, hnot⟩
  simp only [lt_def, ofMillis] at hnot ⊢
  omega

end Instant

namespace Row

/-! ### Rows before a time -/

/-- In a list that descends by time, what lies before a time is the end of the list. -/
theorem filter_isSuffix {rows : List Row} (h : rows.Pairwise fun r r' => r'.ctime ≤ r.ctime)
    (ms : ℤ) : (rows.filter fun r => decide (r.ctime < ms)) <:+ rows := by
  induction rows with
  | nil => exact List.suffix_rfl
  | cons r rows ih =>
    obtain ⟨hr, hrows⟩ := List.pairwise_cons.mp h
    by_cases hlt : r.ctime < ms
    · -- everything behind it is as early, so the whole list is left
      have hall : ∀ r' ∈ r :: rows, decide (r'.ctime < ms) = true := by
        refine List.forall_mem_cons.mpr ⟨decide_eq_true hlt, fun r' hr' => ?_⟩
        exact decide_eq_true (lt_of_le_of_lt (hr r' hr') hlt)
      refine ⟨[], ?_⟩
      rw [List.nil_append, List.filter_eq_self.mpr hall]
    · rw [List.filter_cons_of_neg (by simpa using hlt)]
      exact (ih hrows).trans (List.suffix_cons r rows)

end Row

namespace Store

/-! ### Answers to two cursors -/

variable {s : Store} {m : Mailbox} {tag : String} {owns : ℤ → Bool} {a b : Instant} {limit : ℕ}

/-- The wanted rows of a mailbox, the newest first. -/
def wanted (s : Store) (m : Mailbox) (tag : String) (owns : ℤ → Bool) : List Row :=
  ((s.rows m).filter fun r => r.tag == tag && owns r.uid).mergeSort Row.precedes

/-- Without a limit, an answer is the wanted rows before the cursor. -/
theorem scan_eq_filter_wanted (hlimit : (s.rows m).length ≤ limit) :
    s.scan m tag owns a limit =
      (s.wanted m tag owns).filter fun r => decide (r.ctime < a.cursorMillis) := by
  rw [wanted, Sorting.filter_mergeSort Row.precedes_trans Row.precedes_total,
    ← Row.filter_wanted]
  refine List.take_of_length_le ?_
  rw [List.length_mergeSort]
  exact (List.length_filter_le _ _).trans hlimit

theorem wanted_descending :
    (s.wanted m tag owns).Pairwise fun r r' => r'.ctime ≤ r.ctime := by
  refine (List.pairwise_mergeSort Row.precedes_trans Row.precedes_total _).imp fun h => ?_
  simp only [Row.precedes, decide_eq_true_eq] at h
  omega

/-- **A larger cursor adds rows in front, and nothing else.** -/
theorem scan_isSuffix (hlimit : (s.rows m).length ≤ limit) (h : a.cursorMillis ≤ b.cursorMillis) :
    s.scan m tag owns a limit <:+ s.scan m tag owns b limit := by
  rw [scan_eq_filter_wanted hlimit, scan_eq_filter_wanted hlimit,
    ← Row.filter_ctime_lt h (s.wanted m tag owns)]
  exact Row.filter_isSuffix (wanted_descending.filter _) _

/-- **Asking with the second cursor shows all that asking with the first does**, and only adds
events in front. -/
structure AddsOnly (a b : Instant) : Prop where
  /-- So it is with what was pushed to a user. -/
  pushed : ∀ (s : Store) (tag : String) (uid : ℤ) (limit : ℕ), s.inbox.length ≤ limit →
    (s.pushed tag uid a limit).map Row.toEvent <:+ (s.pushed tag uid b limit).map Row.toEvent
  /-- So it is with what some users keep. -/
  kept : ∀ (s : Store) (tag : String) (uids : List ℤ) (limit : ℕ), s.outbox.length ≤ limit →
    (s.kept tag uids a limit).map Row.toEvent <:+ (s.kept tag uids b limit).map Row.toEvent

theorem addsOnly_of_cursorMillis_le (h : a.cursorMillis ≤ b.cursorMillis) : AddsOnly a b where
  pushed _ _ _ _ hlimit := (scan_isSuffix hlimit h).map _
  kept _ _ _ _ hlimit := (scan_isSuffix hlimit h).map _

/-- A store with one row in the inbox of the user 1. -/
def single (ctime : ℤ) : Store := ⟨[⟨1, 1, "like_event", "\x7b\x7d", ctime⟩], [], 1⟩

theorem pushed_single (ctime : ℤ) (before : Instant) :
    ((single ctime).pushed "like_event" 1 before 1).map Row.toEvent =
      if ctime < before.cursorMillis then
        [Row.toEvent ⟨1, 1, "like_event", "\x7b\x7d", ctime⟩]
      else [] := by
  have hlimit : ((single ctime).rows .inbox).length ≤ 1 := le_rfl
  have hwanted : (single ctime).wanted .inbox "like_event" (· == 1) =
      [⟨1, 1, "like_event", "\x7b\x7d", ctime⟩] := List.mergeSort_singleton _
  rw [pushed, scan_eq_filter_wanted hlimit, hwanted, List.filter_cons]
  simp only [decide_eq_true_eq]
  split <;> rfl

/-- **A later cursor hides nothing exactly if the earlier one does not run past it.** Let the second
of two instants be not the earlier one. Whatever is stored, asking with the second one shows all that
asking with the first does; only if the first lies in a leap second and the other one in the next,
and the cursor of the first is the larger one nevertheless, there are stores of which this fails. And
rows that a later cursor hides belong behind both instants. -/
theorem addsOnly_iff (hle : a ≤ b) (ha : a.nanos < 2000000000) :
    (AddsOnly a b ↔ ¬a.RunsPast b) ∧
      ∀ (s : Store) (m : Mailbox) (tag : String) (owns : ℤ → Bool) (limit : ℕ),
        (s.rows m).length ≤ limit → ∀ r ∈ s.scan m tag owns a limit,
          r ∈ s.scan m tag owns b limit ∨
            a.RunsPast b ∧ a < .ofMillis r.ctime ∧ ¬.ofMillis r.ctime < b := by
  refine ⟨⟨fun h hpast => ?_, fun h => ?_⟩, fun s m tag owns limit hlimit r hr => ?_⟩
  · -- a row at the smaller cursor is shown for the larger one alone
    have hsingle := h.pushed (single b.cursorMillis) "like_event" 1 1 le_rfl
    rw [pushed_single, pushed_single, if_pos hpast.cursor, if_neg (lt_irrefl _)] at hsingle
    exact List.cons_ne_nil _ _ (List.suffix_nil.mp hsingle)
  · exact addsOnly_of_cursorMillis_le (Instant.cursorMillis_le_of_not_runsPast hle ha h)
  · by_cases hpast : a.RunsPast b
    · rw [scan_eq_filter_wanted hlimit, List.mem_filter] at hr
      by_cases hlt : r.ctime < b.cursorMillis
      · left
        rw [scan_eq_filter_wanted hlimit, List.mem_filter]
        exact ⟨hr.1, decide_eq_true hlt⟩
      · exact .inr ⟨hpast, hpast.lt_ofMillis ha (not_lt.mp hlt)⟩
    · have hcursor := Instant.cursorMillis_le_of_not_runsPast hle ha hpast
      exact .inl ((scan_isSuffix hlimit hcursor).mem hr)

/-- In the middle of the leap second at the end of 2016. -/
def inLeapSecond : Instant := ⟨1483228799, 1500000000⟩

/-- An instant in the second after it, as far into it or further. -/
theorem addsOnly_iff_afterLeapSecond :
    inLeapSecond ≤ ⟨1483228800, 499000001⟩ ∧ inLeapSecond.nanos < 2000000000 ∧
      AddsOnly inLeapSecond ⟨1483228800, 499000001⟩ ∧
      ¬AddsOnly inLeapSecond ⟨1483228800, 499000000⟩ := by
  have hnanos : inLeapSecond.nanos < 2000000000 := by decide
  have hlater : inLeapSecond ≤ ⟨1483228800, 499000001⟩ := by decide
  have hlater' : inLeapSecond ≤ ⟨1483228800, 499000000⟩ := by decide
  refine ⟨hlater, hnanos, ?_, ?_⟩
  · refine (addsOnly_iff hlater hnanos).1.mpr fun hpast => ?_
    exact absurd hpast.cursor (by decide)
  · intro hadds
    exact (addsOnly_iff hlater' hnanos).1.mp hadds ⟨by decide, rfl, by decide⟩

/-- **A later cursor may hide an event**: asked in the middle of a leap second, the store shows an
event of the next second, and asked at the beginning of that next second it does not. -/
theorem later_cursor_hides_event :
    inLeapSecond.Proper ∧ (⟨1483228800, 100000000⟩ : Instant).Proper ∧
      inLeapSecond ≤ ⟨1483228800, 100000000⟩ ∧ (single 1483228800200).inbox.length ≤ 1 ∧
      ((single 1483228800200).pushed "like_event" 1 inLeapSecond 1).map Row.toEvent =
        [⟨1, 1, "like_event", ⟨1483228800, 200000000⟩, .empty⟩] ∧
      ((single 1483228800200).pushed "like_event" 1 ⟨1483228800, 100000000⟩ 1).map Row.toEvent =
        [] := by
  refine ⟨by decide, by decide, by decide, by decide, ?_, ?_⟩
  · rw [pushed_single, if_pos (by decide)]
    decide +kernel
  · rw [pushed_single, if_neg (by decide)]

end Store

end ActivityFeed
