import ActivityFeed.Time.Calendar

/-!
# Instants

Points in time with nanoseconds, and the two ways in which whole milliseconds stand for them. A
stored time is the last whole millisecond that is not after the instant. A cursor, which asks for
all that is stored before it, is rounded up instead: what was stored in the same millisecond, but
before the cursor, has the smaller number and is found.

* `ActivityFeed.Instant` – seconds since the beginning of 1970 and nanoseconds, which always count
  forward;
* `ActivityFeed.Instant.millis`, `ActivityFeed.Instant.cursorMillis` – the two roundings;
* `ActivityFeed.Instant.ofMillis?` – the instant of a stored time, if the calendar reaches that
  far.

A leap second has no number of its own. It is the second before it, with nanoseconds from `10 ^ 9`
on, and in the order of instants it lies between that second and the next.
-/

namespace ActivityFeed

/-- A point in time. -/
@[ext]
structure Instant where
  /-- Seconds since the beginning of 1970, in Greenwich. -/
  secs : Int
  /-- Nanoseconds on top, from `10 ^ 9` on in a leap second. -/
  nanos : Nat
  deriving DecidableEq, Repr

namespace Instant

/-- The beginning of 1970. -/
def epoch : Instant := ⟨0, 0⟩

/-- Earlier or equal: the seconds decide, then the nanoseconds. -/
instance : LE Instant := ⟨fun a b => a.secs < b.secs ∨ a.secs = b.secs ∧ a.nanos ≤ b.nanos⟩

/-- Earlier. -/
instance : LT Instant := ⟨fun a b => a.secs < b.secs ∨ a.secs = b.secs ∧ a.nanos < b.nanos⟩

theorem le_def {a b : Instant} :
    a ≤ b ↔ a.secs < b.secs ∨ a.secs = b.secs ∧ a.nanos ≤ b.nanos := Iff.rfl

theorem lt_def {a b : Instant} :
    a < b ↔ a.secs < b.secs ∨ a.secs = b.secs ∧ a.nanos < b.nanos := Iff.rfl

instance (a b : Instant) : Decidable (a ≤ b) := inferInstanceAs (Decidable (_ ∨ _))

instance (a b : Instant) : Decidable (a < b) := inferInstanceAs (Decidable (_ ∨ _))

theorem lt_irrefl (a : Instant) : ¬a < a := by
  rw [lt_def]
  omega

theorem lt_trans {a b c : Instant} (hab : a < b) (hbc : b < c) : a < c := by
  rw [lt_def] at hab hbc ⊢
  omega

/-- Of two different instants one is earlier. -/
theorem lt_or_eq_or_lt (a b : Instant) : a < b ∨ a = b ∨ b < a := by
  rw [lt_def, lt_def, Instant.ext_iff]
  omega

/-- The instant lies in a leap second. -/
def InLeapSecond (t : Instant) : Prop := 1000000000 ≤ t.nanos

instance (t : Instant) : Decidable t.InLeapSecond := inferInstanceAs (Decidable (_ ≤ _))

/-! ### Whole milliseconds -/

/-- The last whole millisecond that is not after the instant. -/
def millis (t : Instant) : Int := t.secs * 1000 + (t.nanos / 1000000 : Nat)

/-- The first whole millisecond that is not before the instant. -/
def cursorMillis (t : Instant) : Int :=
  if t.nanos % 1000000 = 0 then t.millis else t.millis + 1

/-- The instant that begins a millisecond. -/
def ofMillis (ms : Int) : Instant := ⟨ms / 1000, (ms % 1000).toNat * 1000000⟩

/-- A whole millisecond stands for itself. -/
@[simp]
theorem millis_ofMillis (ms : Int) : (ofMillis ms).millis = ms := by
  simp only [millis, ofMillis]
  omega

/-- A cursor at a whole millisecond is that millisecond. -/
@[simp]
theorem cursorMillis_ofMillis (ms : Int) : (ofMillis ms).cursorMillis = ms := by
  have h : (ofMillis ms).nanos % 1000000 = 0 := Nat.mul_mod_left _ _
  rw [cursorMillis, if_pos h, millis_ofMillis]

/-- The seconds in a day. -/
def daySecs : Int := 86400

/-- The first millisecond of the calendar. -/
def firstMilli : Int := Date.firstDay * daySecs * 1000

/-- The last millisecond of the calendar. -/
def lastMilli : Int := (Date.lastDay + 1) * daySecs * 1000 - 1

/-- The millisecond lies within the calendar. -/
def MilliInCalendar (ms : Int) : Prop := firstMilli ≤ ms ∧ ms ≤ lastMilli

instance (ms : Int) : Decidable (MilliInCalendar ms) := inferInstanceAs (Decidable (_ ∧ _))

/-- The instant that begins a millisecond of the calendar. -/
def ofMillis? (ms : Int) : Option Instant :=
  if MilliInCalendar ms then some (ofMillis ms) else none

example : millis ⟨-1, 999999999⟩ = -1 ∧ cursorMillis ⟨-1, 999999999⟩ = 0 := by decide

example : firstMilli = -8334601228800000 ∧ lastMilli = 8210266876799999 := by decide

/-! ### The calendar -/

/-- The number of the day that holds the instant. -/
def dayNumber (t : Instant) : Int := t.secs / daySecs

/-- The instant lies within the calendar. -/
def InCalendar (t : Instant) : Prop :=
  Date.firstDay ≤ t.dayNumber ∧ t.dayNumber ≤ Date.lastDay

instance (t : Instant) : Decidable t.InCalendar := inferInstanceAs (Decidable (_ ∧ _))

end Instant

end ActivityFeed
