import ActivityFeed.Time.Calendar
import Mathlib.Data.Int.Notation
import Mathlib.Data.Nat.Notation
import Mathlib.Tactic.IntervalCases
import Mathlib.Tactic.SplitIfs

/-!
# Days and dates

Days have numbers, and a number has a date. The date of every day of the calendar exists
(`ActivityFeed.Date.exists_ofDays`), and it has the number of that day
(`ActivityFeed.Date.toDays_ofDays`), before 1970 as well as after and to both ends of the calendar.

Between the two stands the place of a day in its cycle of four centuries: a year of the cycle and a
day of that year (`ActivityFeed.Date.InCycle`), where years begin with March. A year then has its
leap day last, so a leap day shows only in the bound on the days of a year, and every month begins
on the same day of every year.
-/

namespace ActivityFeed

namespace Date

/-! ### The place of a day in its cycle -/

/-- **A day of a cycle of four centuries is a day of a year**, where the years of the cycle begin
with March. -/
structure InCycle (number year day : ℕ) : Prop where
  /-- The year is one of four hundred. -/
  year_lt : year < 400
  /-- The day is one of 365, or a leap day behind them. -/
  day_le : day ≤ 365
  /-- The years before it have their leap days. -/
  number_eq : year * 365 + year / 4 - year / 100 + day = number
  /-- A leap day comes with every fourth year, but of the full centuries only with the last. -/
  leap : day = 365 → (year + 1) % 4 = 0 ∧ ((year + 1) % 100 = 0 → year = 399)

/-- Counting whole centuries, whole groups of four years and whole years finds the place. The last
of each may be longer than the others, which is why the counts are bounded. -/
theorem inCycle_of_parts {number century inCentury group inGroup year : ℕ} (h : number < 146097)
    (hcentury : century = min (number / 36524) 3) (hin : inCentury = number - century * 36524)
    (hgroup : group = inCentury / 1461) (hinGroup : inGroup = inCentury % 1461)
    (hyear : year = min (inGroup / 365) 3) :
    InCycle number (century * 100 + group * 4 + year) (inGroup - year * 365) := by
  have hcenturies : century ≤ 3 ∧ number = century * 36524 + inCentury ∧ inCentury ≤ 36524 ∧
      (inCentury = 36524 → century = 3) := by omega
  have hgroups : group ≤ 24 ∧ inCentury = group * 1461 + inGroup := by omega
  obtain ⟨day, hday⟩ : ∃ day, day = inGroup - year * 365 := ⟨_, rfl⟩
  have hyears : year ≤ 3 ∧ inGroup = year * 365 + day ∧ day ≤ 365 ∧ (day = 365 → year = 3) := by
    omega
  -- from here on only the sizes of the parts count, not how they were found
  clear h hcentury hin hgroup hinGroup hyear
  rw [← hday]
  have hfourth : (century * 100 + group * 4 + year) / 4 = century * 25 + group := by omega
  have hhundredth : (century * 100 + group * 4 + year) / 100 = century := by omega
  refine ⟨by omega, by omega, ?_, by omega⟩
  rw [hfourth, hhundredth]
  omega

/-- The date of a day of a year that begins with March. -/
def ofMarch (cycle : ℤ) (year day : ℕ) : Date :=
  let march := (5 * day + 2) / 153
  let month := monthOfMarch march
  ⟨cycle * 400 + ((year + if month ≤ 2 then 1 else 0 : ℕ) : ℤ), month, day - daysBefore march + 1⟩

/-- **Every day has its place in a cycle**, and its date is the date of that place. -/
theorem exists_inCycle (n : ℤ) :
    ∃ year day : ℕ, InCycle ((n + epochShift) % cycleDays).toNat year day ∧
      ofDays n = ofMarch ((n + epochShift) / cycleDays) year day := by
  have h : ((n + epochShift) % cycleDays).toNat < 146097 := by
    simp only [epochShift, cycleDays]
    omega
  exact ⟨_, _, inCycle_of_parts h rfl rfl rfl rfl rfl, rfl⟩

/-! ### The date of a place -/

theorem march_of_day {day : ℕ} (h : day ≤ 365) :
    (5 * day + 2) / 153 ≤ 11 ∧ daysBefore ((5 * day + 2) / 153) ≤ day := by
  simp only [daysBefore]
  omega

theorem monthFromMarch_monthOfMarch : ∀ march ≤ 11,
    monthFromMarch (monthOfMarch march) = march ∧ 1 ≤ monthOfMarch march ∧
      monthOfMarch march ≤ 12 := by
  decide

/-- January and February belong to the year that follows. -/
theorem year_ofMarch (cycle : ℤ) (year : ℕ) {day : ℕ} (h : day ≤ 365) :
    (ofMarch cycle year day).year = cycle * 400 + year + if 306 ≤ day then 1 else 0 := by
  have hmonth : monthOfMarch ((5 * day + 2) / 153) ≤ 2 ↔ 306 ≤ day := by
    unfold monthOfMarch
    split_ifs <;> omega
  simp only [ofMarch, hmonth]
  split_ifs <;> omega

/-- The number of a date is found from its place. -/
theorem toDays_ofMarch (cycle : ℤ) {year day : ℕ} (hyear : year < 400) (hday : day ≤ 365) :
    (ofMarch cycle year day).toDays =
      cycle * cycleDays + (year * 365 + year / 4 - year / 100 + day : ℕ) - epochShift := by
  obtain ⟨hmarch, hbefore⟩ := march_of_day hday
  obtain ⟨hback, -, -⟩ := monthFromMarch_monthOfMarch _ hmarch
  -- whether the year was moved on or not, it is moved back again
  have hmarchYear : ∀ month : ℕ, (if month ≤ 2
      then cycle * 400 + ((year + if month ≤ 2 then 1 else 0 : ℕ) : ℤ) - 1
      else cycle * 400 + ((year + if month ≤ 2 then 1 else 0 : ℕ) : ℤ)) = cycle * 400 + year := by
    intro month
    split_ifs <;> omega
  have hmod : ((cycle * 400 + (year : ℤ)) % 400).toNat = year := by omega
  have hdiv : (cycle * 400 + (year : ℤ)) / 400 = cycle := by omega
  rw [ofMarch]
  unfold toDays
  dsimp only
  rw [hback, hmarchYear, hmod, hdiv]
  omega

/-- **The date of a day has the number of that day.** -/
theorem toDays_ofDays (n : ℤ) : (ofDays n).toDays = n := by
  obtain ⟨year, day, h, hdate⟩ := exists_inCycle n
  rw [hdate, toDays_ofMarch _ h.year_lt h.day_le, h.number_eq]
  simp only [epochShift, cycleDays]
  omega

/-! ### The date exists -/

theorem firstDay_eq : firstDay = -96465292 := by decide

theorem lastDay_eq : lastDay = 95026236 := by decide

/-- No day of the calendar lies in a year before the first. The first year begins in the course of a
year that begins with March, namely that of number 256 in its cycle. -/
theorem firstYear_le {cycle : ℤ} {number year day : ℕ} (h : InCycle number year day)
    (hnumber : number < 146097) (hfirst : firstDay ≤ cycle * cycleDays + number - epochShift) :
    firstYear ≤ (ofMarch cycle year day).year := by
  obtain ⟨hyear, hday, heq, -⟩ := h
  rw [firstDay_eq] at hfirst
  rw [year_ofMarch cycle year hday]
  simp only [cycleDays, epochShift, firstYear] at hfirst ⊢
  rcases (by omega : -655 ≤ cycle ∨ cycle = -656) with hcycle | rfl
  · split_ifs <;> omega
  · rcases (by omega : year ≤ 255 ∨ year = 256 ∨ 257 ≤ year) with hearly | rfl | hlate
    · omega
    · split_ifs <;> omega
    · split_ifs <;> omega

/-- No day of the calendar lies in a year behind the last. The last year ends in the course of a
year that begins with March, namely that of number 142 in its cycle. -/
theorem le_lastYear {cycle : ℤ} {number year day : ℕ} (h : InCycle number year day)
    (hlast : cycle * cycleDays + number - epochShift ≤ lastDay) :
    (ofMarch cycle year day).year ≤ lastYear := by
  obtain ⟨hyear, hday, heq, -⟩ := h
  rw [lastDay_eq] at hlast
  rw [year_ofMarch cycle year hday]
  simp only [cycleDays, epochShift, lastYear] at hlast ⊢
  rcases (by omega : cycle ≤ 654 ∨ cycle = 655) with hcycle | rfl
  · split_ifs <;> omega
  · rcases (by omega : year ≤ 141 ∨ year = 142 ∨ 143 ≤ year) with hearly | rfl | hlate
    · split_ifs <;> omega
    · split_ifs <;> omega
    · omega

/-- All months but February end where the next one begins. -/
theorem daysInMonth_monthOfMarch (year : ℤ) {march : ℕ} (h : march < 11) :
    daysInMonth year (monthOfMarch march) = daysBefore (march + 1) - daysBefore march := by
  interval_cases march <;> rfl

/-- A year that begins with March has a leap day if the calendar year that it ends in has one. -/
theorem isLeap_of_inCycle (cycle : ℤ) {number year : ℕ} (h : InCycle number year 365) :
    isLeap (cycle * 400 + year + 1) = true := by
  have hleap := h.leap rfl
  simp only [isLeap, Bool.and_eq_true, Bool.or_eq_true, beq_iff_eq, bne_iff_ne]
  omega

/-- The day of the month is one of its days. -/
theorem day_le_daysInMonth (cycle : ℤ) {number year day : ℕ} (h : InCycle number year day) :
    (ofMarch cycle year day).day ≤
      daysInMonth (ofMarch cycle year day).year (ofMarch cycle year day).month := by
  have hday := h.day_le
  rw [year_ofMarch cycle year hday]
  obtain ⟨march, hmarch⟩ : ∃ march, march = (5 * day + 2) / 153 := ⟨_, rfl⟩
  have hdays : (ofMarch cycle year day).day = day - daysBefore march + 1 := by
    rw [hmarch]
    rfl
  have hmonth : (ofMarch cycle year day).month = monthOfMarch march := by
    rw [hmarch]
    rfl
  rw [hdays, hmonth]
  rcases (by omega : march < 11 ∨ march = 11) with hother | rfl
  · rw [daysInMonth_monthOfMarch _ hother]
    simp only [daysBefore]
    omega
  · -- February: only a leap day is its twenty-ninth
    rw [if_pos (by omega)]
    show day - 337 + 1 ≤ if isLeap _ then 29 else 28
    split_ifs with hleap
    · omega
    · rcases (by omega : day ≤ 364 ∨ day = 365) with hcommon | rfl
      · omega
      · exact absurd (isLeap_of_inCycle cycle h) hleap

/-- **Every day of the calendar has a date that exists.** -/
theorem exists_ofDays {n : ℤ} (hfirst : firstDay ≤ n) (hlast : n ≤ lastDay) :
    (ofDays n).Exists := by
  obtain ⟨year, day, h, hdate⟩ := exists_inCycle n
  obtain ⟨number, hnumber⟩ : ∃ number, number = ((n + epochShift) % cycleDays).toNat := ⟨_, rfl⟩
  obtain ⟨cycle, hcycle⟩ : ∃ cycle, cycle = (n + epochShift) / cycleDays := ⟨_, rfl⟩
  have hn : n = cycle * cycleDays + number - epochShift ∧ number < 146097 := by
    simp only [epochShift, cycleDays] at *
    omega
  obtain ⟨-, hlow, hhigh⟩ := monthFromMarch_monthOfMarch _ (march_of_day h.day_le).1
  rw [← hnumber] at h
  rw [hn.1] at hfirst hlast
  rw [hdate, ← hcycle]
  exact ⟨firstYear_le h hn.2 hfirst, le_lastYear h hlast, hlow, hhigh, Nat.le_add_left 1 _,
    day_le_daysInMonth cycle h⟩

end Date

end ActivityFeed
