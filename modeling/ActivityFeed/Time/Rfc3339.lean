import ActivityFeed.Text.Blank
import ActivityFeed.Text.Decimal
import ActivityFeed.Time.Instant

/-!
# Times as text

The written form of an instant is that of RFC 3339, in Greenwich time and with as many groups of
three decimals as it takes. Years that do not have four digits carry a sign, and a leap second is
second sixty. Reading is more generous than writing: it accepts other offsets from Greenwich and
some liberties that people take.

* `ActivityFeed.Instant.text` – the written form;
* `ActivityFeed.Instant.ofText?` – the instant that a text stands for.

The reader takes these liberties. A number may have fewer digits than usual, and blanks may stand
before every number, dash and colon. Date and time may be separated by a space or a small letter.
The fraction may have any number of digits, of which nine count. Before and after the offset there
may be blanks, between its hours and minutes any colons and blanks or nothing, and its sign may be
the minus of mathematics. What stands for Greenwich is `Z`, in either case, or the letters of `UTC`.
-/

namespace ActivityFeed

namespace Instant

open Text

/-! ### Writing -/

/-- The year of a written date. -/
def yearText (year : Int) : List Char :=
  if 0 ≤ year ∧ year ≤ 9999 then padded 4 year.natAbs
  else (if year < 0 then '-' else '+') :: padded 4 year.natAbs

/-- The fraction of a second, in the shortest of the forms with no, three, six and nine digits. -/
def fractionText (nanos : Nat) : List Char :=
  if nanos = 0 then []
  else if nanos % 1000000 = 0 then '.' :: padded 3 (nanos / 1000000)
  else if nanos % 1000 = 0 then '.' :: padded 6 (nanos / 1000)
  else '.' :: padded 9 nanos

/-- The written form of a date. -/
def dateText (d : Date) : List Char :=
  yearText d.year ++ '-' :: padded 2 d.month ++ '-' :: padded 2 d.day

/-- The written form of an instant. -/
def text (t : Instant) : List Char :=
  let inDay := (t.secs % daySecs).toNat
  let second := inDay % 60 + t.nanos / 1000000000
  dateText (Date.ofDays t.dayNumber) ++ 'T' :: padded 2 (inDay / 3600) ++
    ':' :: padded 2 (inDay / 60 % 60) ++ ':' :: padded 2 second ++
    fractionText (t.nanos % 1000000000) ++ ['Z']

example : text ⟨1700000000, 123000000⟩ = "2023-11-14T22:13:20.123Z".toList := by rfl

example : text ⟨1483228799, 1500000000⟩ = "2016-12-31T23:59:60.500Z".toList := by rfl

/-! ### Reading -/

/-- The value of a sequence of digits. -/
def numeral (ds : List Char) : Nat := ds.foldl (fun n c => 10 * n + (c.toNat - '0'.toNat)) 0

/-- The digits at the head of a text, at most `width` of them. -/
def digitsUpTo (width : Nat) (s : List Char) : List Char := (s.takeWhile Char.isDigit).take width

/-- Reads the digits at the head of a text, at least one and at most `width`. -/
def number? (width : Nat) (s : List Char) : Option (Nat × List Char) :=
  let ds := digitsUpTo width s
  if ds = [] then none else some (numeral ds, s.drop ds.length)

/-- Reads a number of two digits, or of one, that may have blanks before it. -/
def field? (s : List Char) : Option (Nat × List Char) := number? 2 (trimStart s)

/-- Reads a year. With a sign it may have any number of digits. -/
def year? (s : List Char) : Option (Int × List Char) :=
  match trimStart s with
  | '-' :: s => (number? s.length s).map fun r => (-(r.1 : Int), r.2)
  | '+' :: s => (number? s.length s).map fun r => ((r.1 : Int), r.2)
  | s => (number? 4 s).map fun r => ((r.1 : Int), r.2)

/-- Reads a given character that may have blanks before it. -/
def mark? (c : Char) (s : List Char) : Option (List Char) :=
  match trimStart s with
  | d :: s => if d = c then some s else none
  | [] => none

/-- Reads a date. -/
def date? (s : List Char) : Option (Date × List Char) := do
  let (year, s) ← year? s
  let s ← mark? '-' s
  let (month, s) ← field? s
  let s ← mark? '-' s
  let (day, s) ← field? s
  let d : Date := ⟨year, month, day⟩
  if d.Exists then some (d, s) else none

/-- Reads what separates the date from the time. -/
def separator? : List Char → Option (List Char)
  | c :: s => if c = 'T' ∨ c = 't' ∨ c = ' ' then some s else none
  | [] => none

/-- Reads the fraction of a second as nanoseconds, if there is one. -/
def fraction? : List Char → Option (Nat × List Char)
  | '.' :: s =>
    let ds := digitsUpTo 9 s
    if ds = [] then none
    else some (numeral ds * Nat.pow 10 (9 - ds.length), s.dropWhile Char.isDigit)
  | s => some (0, s)

/-- A time of day, where second sixty is a leap second. -/
structure TimeOfDay where
  /-- The hour. -/
  hour : Nat
  /-- The minute. -/
  minute : Nat
  /-- The second. -/
  second : Nat
  /-- The fraction of the second in nanoseconds. -/
  nanos : Nat
  deriving DecidableEq, Repr

/-- Reads a time of day. -/
def timeOfDay? (s : List Char) : Option (TimeOfDay × List Char) := do
  let (hour, s) ← field? s
  let s ← mark? ':' s
  let (minute, s) ← field? s
  let s ← mark? ':' s
  let (second, s) ← field? s
  let (nanos, s) ← fraction? s
  if hour < 24 ∧ minute < 60 ∧ second ≤ 60 then some (⟨hour, minute, second, nanos⟩, s) else none

/-- The letter is the given capital letter, in either case. -/
def isLetter (capital c : Char) : Bool := c == capital || c == capital.toLower

/-- Reads two digits. -/
def twoDigits? : List Char → Option (Nat × List Char)
  | a :: b :: s => if a.isDigit ∧ b.isDigit then some (numeral [a, b], s) else none
  | _ => none

/-- Reads the hours and minutes of an offset as seconds. -/
def hoursMinutes? (s : List Char) : Option (Int × List Char) := do
  let (hours, s) ← twoDigits? s
  let (minutes, s) ← twoDigits? (s.dropWhile fun c => c == ':' || isBlank c)
  if minutes < 60 ∧ hours < 24 then some (((hours * 3600 + minutes * 60 : Nat) : Int), s) else none

/-- Reads an offset from Greenwich as seconds. -/
def offset? : List Char → Option (Int × List Char)
  | [] => none
  | c :: s =>
    if isLetter 'Z' c then some (0, s)
    else if c = '+' then hoursMinutes? s
    else if c = '-' ∨ c = '−' then (hoursMinutes? s).map fun r => (-r.1, r.2)
    else
      match s with
      | t :: z :: s =>
        if isLetter 'U' c ∧ isLetter 'T' t ∧ isLetter 'C' z then some (0, s) else none
      | _ => none

/-- The instant of a local date and time at the given offset. -/
def ofLocal (d : Date) (t : TimeOfDay) (offset : Int) : Instant :=
  let leap := t.second / 60
  ⟨d.toDays * daySecs + ((t.hour * 3600 + t.minute * 60 + (t.second - leap) : Nat) : Int) - offset,
    t.nanos + leap * 1000000000⟩

/-- The instant that a text stands for. -/
def ofText? (s : List Char) : Option Instant := do
  let (date, s) ← date? s
  let s ← separator? s
  let (time, s) ← timeOfDay? s
  let (offset, s) ← offset? (trimStart s)
  let t := ofLocal date time offset
  if trimStart s = [] ∧ t.InCalendar then some t else none

example : ofText? "2023-11-14 22:13:20.1234567899+01:30".toList = some ⟨1699994600, 123456789⟩ := by
  decide +kernel

example : ofText? "2016-12-31t23:59:60utc ".toList = some ⟨1483228799, 1000000000⟩ := by
  decide +kernel

example : ofText? " 2023 - 1- 2 3 :4: 05 Z".toList = some ⟨1672628645, 0⟩ := by decide +kernel

example : ofText? "2023-02-29T00:00:00Z".toList = none := by decide +kernel

end Instant

end ActivityFeed
