/-!
# The calendar

Dates of the proleptic Gregorian calendar and the numbers of their days. Day zero is the first of
January 1970; earlier days are negative, and so are the years before the year zero.

* `ActivityFeed.Date` – a year, a month and a day;
* `ActivityFeed.Date.toDays` – the number of a date;
* `ActivityFeed.Date.ofDays` – the date of a number.

Both directions count years from the first of March, so that a leap day is the last day of its
year: four centuries have a fixed number of days, each of them is a number of whole centuries, then
of whole groups of four years, then of whole years, and only the last of each may be longer.
-/

namespace ActivityFeed

/-- A date. -/
structure Date where
  /-- The year, where the year zero comes before the year one. -/
  year : Int
  /-- The month, from one. -/
  month : Nat
  /-- The day of the month, from one. -/
  day : Nat
  deriving DecidableEq, Repr

namespace Date

/-- The number of days from the first of March of the year zero to the first of January 1970. -/
def epochShift : Int := 719468

/-- The days in four centuries. -/
def cycleDays : Int := 146097

/-- The days from the first of March to the first of a month, where March is month zero. -/
def daysBefore (march : Nat) : Nat := (153 * march + 2) / 5

/-- The month counted from March, which is month zero. -/
def monthFromMarch (month : Nat) : Nat := (month + 9) % 12

/-- The month that stands the given number of months after March. -/
def monthOfMarch (march : Nat) : Nat := if march < 10 then march + 3 else march - 9

/-- The number of a date. -/
def toDays (d : Date) : Int :=
  let year := if d.month ≤ 2 then d.year - 1 else d.year
  let y := (year % 400).toNat
  let dayOfCycle := y * 365 + y / 4 - y / 100 + daysBefore (monthFromMarch d.month) + (d.day - 1)
  year / 400 * cycleDays + dayOfCycle - epochShift

/-- The date of a number. -/
def ofDays (n : Int) : Date :=
  let shifted := n + epochShift
  let inCycle := (shifted % cycleDays).toNat
  let century := min (inCycle / 36524) 3
  let inCentury := inCycle - century * 36524
  let inGroup := inCentury % 1461
  let yearOfGroup := min (inGroup / 365) 3
  let inYear := inGroup - yearOfGroup * 365
  let march := (5 * inYear + 2) / 153
  let month := monthOfMarch march
  let year := century * 100 + inCentury / 1461 * 4 + yearOfGroup + if month ≤ 2 then 1 else 0
  ⟨shifted / cycleDays * 400 + year, month, inYear - daysBefore march + 1⟩

/-- The year has a leap day. -/
def isLeap (year : Int) : Bool := year % 4 == 0 && (year % 100 != 0 || year % 400 == 0)

/-- The number of days in a month. -/
def daysInMonth (year : Int) (month : Nat) : Nat :=
  if month = 2 then if isLeap year then 29 else 28
  else if month = 4 ∨ month = 6 ∨ month = 9 ∨ month = 11 then 30
  else 31

/-- The first year of the calendar in use. -/
def firstYear : Int := -262143

/-- The last year of the calendar in use. -/
def lastYear : Int := 262142

/-- The date exists in the calendar in use. -/
def Exists (d : Date) : Prop :=
  firstYear ≤ d.year ∧ d.year ≤ lastYear ∧ 1 ≤ d.month ∧ d.month ≤ 12 ∧ 1 ≤ d.day ∧
    d.day ≤ daysInMonth d.year d.month

instance (d : Date) : Decidable d.Exists := inferInstanceAs (Decidable (_ ∧ _))

/-- The number of the first day of the calendar in use. -/
def firstDay : Int := toDays ⟨firstYear, 1, 1⟩

/-- The number of the last day of the calendar in use. -/
def lastDay : Int := toDays ⟨lastYear, 12, 31⟩

example : toDays ⟨1970, 1, 1⟩ = 0 ∧ toDays ⟨2000, 2, 29⟩ = 11016 := by decide

example : ofDays 11016 = ⟨2000, 2, 29⟩ ∧ ofDays (-1) = ⟨1969, 12, 31⟩ := by decide

example : firstDay = -96465292 ∧ lastDay = 95026236 := by decide

end Date

end ActivityFeed
