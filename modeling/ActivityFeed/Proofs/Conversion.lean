import ActivityFeed.Proofs.Content
import ActivityFeed.Proofs.Progress

/-!
# What a row keeps of an event

A row keeps an event as it is, apart from its time: that becomes the latest whole millisecond that
is not after it (`ActivityFeed.Instant.IsLatestMilli`). Before 1970 this is no smaller claim than
afterwards, since nanoseconds count forward there too. The bag is written as a text, and the order
of its names is not settled (`ActivityFeed.Row.ofEventIn`), but it does not matter either.

So nothing more is lost the second time. This holds of rows in which anything may stand: a damaged
text is read as the empty bag and a time beyond the calendar as the beginning of 1970, and both can
be written and read again (`ActivityFeed.Row.conversions_exact`).
-/

namespace ActivityFeed

namespace Instant

/-! ### Whole milliseconds -/

/-- A millisecond begins at the instant. -/
def WholeMilli (t : Instant) : Prop := t.nanos % 1000000 = 0

instance (t : Instant) : Decidable t.WholeMilli := inferInstanceAs (Decidable (_ = _))

/-- **The latest whole millisecond not after an instant.** -/
structure IsLatestMilli (t m : Instant) : Prop where
  /-- A millisecond begins there. -/
  whole : m.WholeMilli
  /-- It is not after the instant. -/
  le : m ≤ t
  /-- No other one lies between the two. -/
  latest : ∀ n : Instant, n.WholeMilli → n ≤ t → n ≤ m

variable {t : Instant}

theorem IsLatestMilli.unique {m n : Instant} (hm : IsLatestMilli t m) (hn : IsLatestMilli t n) :
    m = n := by
  have hmn := hn.latest m hm.whole hm.le
  have hnm := hm.latest n hn.whole hn.le
  rw [le_def] at hmn hnm
  rw [Instant.ext_iff]
  omega

theorem wholeMilli_ofMillis (ms : ℤ) : (ofMillis ms).WholeMilli := Nat.mul_mod_left _ _

theorem ofMillis_millis (h : ¬t.InLeapSecond) :
    ofMillis t.millis = ⟨t.secs, t.nanos / 1000000 * 1000000⟩ := by
  simp only [InLeapSecond] at h
  simp only [ofMillis, millis, mk.injEq]
  omega

/-- **What is stored of an instant is the latest whole millisecond not after it**, on both sides of
1970. -/
theorem isLatestMilli_ofMillis_millis (h : ¬t.InLeapSecond) :
    IsLatestMilli t (ofMillis t.millis) where
  whole := wholeMilli_ofMillis _
  le := (le_millis_iff h).mp (Int.le_refl _)
  latest n hn hle := by
    rw [WholeMilli] at hn
    rw [le_def] at hle
    rw [ofMillis_millis h, le_def]
    dsimp only
    omega

/-- Exactly whole milliseconds are stored as they are. -/
theorem ofMillis_millis_eq_self_iff (h : ¬t.InLeapSecond) :
    ofMillis t.millis = t ↔ t.WholeMilli := by
  rw [ofMillis_millis h, Instant.ext_iff, WholeMilli]
  dsimp only
  omega

end Instant

namespace Row

/-! ### Writing and reading -/

/-- The row of an event, where the pairs of its bag are written in the given order. -/
def ofEventIn (e : FeedEvent) (ps : List (String × String)) : Row :=
  { ofEvent e with content := String.ofList (Json.textMapText ps) }

/-- The names may stand in their own order. -/
theorem ofEventIn_pairs (e : FeedEvent) : ofEventIn e e.bag.pairs = ofEvent e := rfl

variable {e : FeedEvent} {ps : List (String × String)}

theorem ofContent?_ofEventIn (hps : ps.Perm e.bag.pairs) :
    Bag.ofContent? (ofEventIn e ps).content = .ok e.bag :=
  Bag.ofContent?_textMapText hps

/-- **An event is read back with the beginning of its millisecond.** -/
theorem toEvent_ofEventIn (h : e.createdAt.Ordinary) (hps : ps.Perm e.bag.pairs) :
    (ofEventIn e ps).toEvent = { e with createdAt := .ofMillis e.createdAt.millis } := by
  have hbag : Bag.ofContent (ofEventIn e ps).content = e.bag :=
    Bag.ofContent_of_ok (ofContent?_ofEventIn hps)
  have htime : (ofEventIn e ps).createdAt = .ofMillis e.createdAt.millis :=
    createdAt_eq h.milliInCalendar
  rw [toEvent, hbag, htime]
  rfl

/-- An event is read back as it was exactly if it happened at a whole millisecond. -/
theorem toEvent_ofEventIn_eq_self_iff (h : e.createdAt.Ordinary) (hps : ps.Perm e.bag.pairs) :
    (ofEventIn e ps).toEvent = e ↔ e.createdAt.WholeMilli := by
  rw [toEvent_ofEventIn h hps, ← Instant.ofMillis_millis_eq_self_iff h.2]
  exact ⟨congrArg FeedEvent.createdAt, fun heq => by rw [heq]⟩

/-- Nothing is odd about the row of an event. -/
theorem notices_ofEventIn (h : e.createdAt.Ordinary) (hps : ps.Perm e.bag.pairs) :
    (ofEventIn e ps).notices = [] := by
  have htime : Instant.MilliInCalendar (ofEventIn e ps).ctime := h.milliInCalendar
  rw [notices, if_pos htime, Bag.contentNotices_of_ok (ofContent?_ofEventIn hps)]
  rfl

/-- Whatever stands in a row, it is read as a whole millisecond. -/
theorem wholeMilli_createdAt (r : Row) : r.createdAt.WholeMilli := by
  by_cases h : Instant.MilliInCalendar r.ctime
  · rw [createdAt_eq h]
    exact Instant.wholeMilli_ofMillis _
  · rw [createdAt, Instant.ofMillis?, if_neg h, Option.getD_none]
    rfl

/-- **Rows keep events, apart from the part of a time below a millisecond, and lose nothing more the
second time.** An event whose time is not in a leap second is read back from its row with the latest
whole millisecond not after that time, so it is read back as it was exactly if its time is a whole
millisecond. And what any row is read as is read again from the row that is written for it. -/
theorem conversions_exact :
    (∀ (e : FeedEvent) (ps : List (String × String)), e.createdAt.Ordinary →
      ps.Perm e.bag.pairs →
        (ofEventIn e ps).notices = [] ∧
        (∃ m, Instant.IsLatestMilli e.createdAt m ∧
          (ofEventIn e ps).toEvent = { e with createdAt := m }) ∧
        ((ofEventIn e ps).toEvent = e ↔ e.createdAt.WholeMilli)) ∧
      ∀ (r : Row) (ps : List (String × String)), ps.Perm r.toEvent.bag.pairs →
        (ofEventIn r.toEvent ps).toEvent = r.toEvent := by
  constructor
  · intro e ps h hps
    have hlatest := Instant.isLatestMilli_ofMillis_millis h.2
    exact ⟨notices_ofEventIn h hps, ⟨_, hlatest, toEvent_ofEventIn h hps⟩,
      toEvent_ofEventIn_eq_self_iff h hps⟩
  · intro r ps hps
    exact (toEvent_ofEventIn_eq_self_iff (ordinary_createdAt r) hps).mpr (wholeMilli_createdAt r)

end Row

/-- An event in the last nanosecond of 1969. -/
def FeedEvent.lastOf1969 : FeedEvent := ⟨1, 7, "article", ⟨-1, 999999999⟩, Bag.peculiar⟩

/-- A row whose text is not JSON and whose time is far behind the calendar. -/
def Row.spoilt : Row := ⟨3, 1, "like", "<<legacy>>", 9223372036854775807⟩

namespace Row

/-- The event goes back by almost a millisecond, and the names of its bag may be written in the
opposite order. The row is read as an event of 1970 with an empty bag, and so is its own row, which
is in order. -/
theorem conversions_exact_spoilt :
    FeedEvent.lastOf1969.createdAt.Ordinary ∧
      FeedEvent.lastOf1969.bag.pairs.reverse.Perm FeedEvent.lastOf1969.bag.pairs ∧
      (ofEventIn FeedEvent.lastOf1969 FeedEvent.lastOf1969.bag.pairs.reverse).toEvent =
        { FeedEvent.lastOf1969 with createdAt := ⟨-1, 999000000⟩ } ∧
      spoilt.toEvent = ⟨3, 1, "like", .epoch, .empty⟩ ∧
      spoilt.notices = [.strangeTime 9223372036854775807, .damagedContent] ∧
      (ofEvent spoilt.toEvent).toEvent = spoilt.toEvent := by
  obtain ⟨hevents, hrows⟩ := conversions_exact
  have hperm : FeedEvent.lastOf1969.bag.pairs.reverse.Perm FeedEvent.lastOf1969.bag.pairs :=
    List.reverse_perm _
  have hordinary : FeedEvent.lastOf1969.createdAt.Ordinary := by decide
  have hempty : spoilt.toEvent = ⟨3, 1, "like", .epoch, .empty⟩ := by decide +kernel
  obtain ⟨-, ⟨m, hm, hread⟩, -⟩ := hevents _ _ hordinary hperm
  obtain rfl := hm.unique (Instant.isLatestMilli_ofMillis_millis hordinary.2)
  refine ⟨hordinary, hperm, hread, hempty, by decide +kernel, ?_⟩
  rw [← ofEventIn_pairs, hrows _ _ (List.Perm.refl _)]

end Row

end ActivityFeed
