import Routing.Decimal

/-!
Dates of the Gregorian calendar, which goes on in both directions. Years are numbered without a gap:
the year before 1 is 0, and it is a leap year.

Days are counted from 1970-01-01, which is day 0. To find the date of a day, whole cycles of 400
years are taken off first, then centuries, then cycles of four years, then years; only the last
century of 400 years and the last year of four may be a day longer than the others.

    day 19 791   ──▶   2024-03-09
-/

namespace Routing

open Decimal

/-- Is this a leap year? -/
def isLeapYear (year : Int) : Bool := year % 4 = 0 && (year % 100 ≠ 0 || year % 400 = 0)

/-- The lengths of the months of a year. -/
def monthLengths (leap : Bool) : List Nat :=
  [31, if leap then 29 else 28, 31, 30, 31, 30, 31, 31, 30, 31, 30, 31]

/-- The length of a month; months are counted from 1. -/
def monthLength (leap : Bool) (month : Nat) : Nat := (monthLengths leap)[month - 1]?.getD 0

/-- Is there such a day? -/
abbrev ValidDate (year : Int) (month day : Nat) : Prop :=
  1 ≤ month ∧ 1 ≤ day ∧ day ≤ monthLength (isLeapYear year) month

/-- A date. -/
structure Date where
  year : Int
  month : Nat
  day : Nat
  valid : ValidDate year month day
  deriving DecidableEq

/-- The days of months together. -/
def totalDays : List Nat → Nat
  | [] => 0
  | n :: ns => n + totalDays ns

/-- The month and the day of the month, for a day that is counted from 0 from the first of the
month on which the list of lengths starts. -/
def findMonth (month : Nat) : (lengths : List Nat) → (day : Nat) → Nat × Nat
  | [], day => (month, day + 1)
  | n :: ns, day => if day < n then (month, day + 1) else findMonth (month + 1) ns (day - n)

/-- The day that is found lies within the month that is found. -/
theorem findMonth_within : ∀ (lengths : List Nat) (month day : Nat), day < totalDays lengths →
    month ≤ (findMonth month lengths day).1 ∧ 1 ≤ (findMonth month lengths day).2 ∧
      (findMonth month lengths day).2 ≤
        (lengths[(findMonth month lengths day).1 - month]?).getD 0
  | [], month, day, h => by simp [totalDays] at h
  | n :: ns, month, day, h => by
    unfold findMonth
    split
    next hlt => exact ⟨Nat.le_refl _, by omega, by simp; omega⟩
    next hge =>
      have ih := findMonth_within ns (month + 1) (day - n) (by simp [totalDays] at h; omega)
      have index : ∀ m, month + 1 ≤ m → m - month = m - (month + 1) + 1 := by omega
      refine ⟨by omega, ih.2.1, ?_⟩
      rw [index _ ih.1, List.getElem?_cons_succ]
      exact ih.2.2

/-- The months of a year together have as many days as the year. -/
theorem totalDays_monthLengths (leap : Bool) :
    totalDays (monthLengths leap) = 365 + if leap then 1 else 0 := by cases leap <;> rfl

/-- A year, and a day of it, counted from 0. -/
structure DayOfYear where
  year : Int
  day : Nat
  within : day < 365 + if isLeapYear year then 1 else 0

/-- The year of a day, counted from 0001-01-01. -/
def DayOfYear.ofCount (count : Int) : DayOfYear :=
  let inCycle := (count % 146097).toNat
  let century := min (inCycle / 36524) 3
  let inCentury := inCycle - century * 36524
  let four := inCentury / 1461
  let inFour := inCentury % 1461
  let one := min (inFour / 365) 3
  { year := count / 146097 * 400 + (century * 100 + four * 4 + one : Nat) + 1
    day := inFour - one * 365
    within := by
      have : inCycle < 146097 := by omega
      have : four ≤ 24 := by omega
      split <;> simp [isLeapYear] at * <;> omega }

namespace Date

/-- The first and the last year that are in use. -/
def firstYear : Int := -262143

@[inherit_doc firstYear]
def lastYear : Int := 262142

/-- Is the date in a year that is in use? -/
abbrev InUse (d : Date) : Prop := firstYear ≤ d.year ∧ d.year ≤ lastYear

/-- The date with these numbers, if there is one in a year that is in use. -/
def of? (year : Int) (month day : Nat) : Option Date :=
  if h : ValidDate year month day then
    let date : Date := ⟨year, month, day, h⟩
    if date.InUse then some date else none
  else none

/-- The number of days from 0001-01-01 to 1970-01-01. -/
def daysTo1970 : Int := 719162

/-- The date of a day of a year. -/
def ofDayOfYear (d : DayOfYear) : Date :=
  let found := findMonth 1 (monthLengths (isLeapYear d.year)) d.day
  have within := findMonth_within (monthLengths (isLeapYear d.year)) 1 d.day
    (by rw [totalDays_monthLengths]; exact d.within)
  ⟨d.year, found.1, found.2, within.1, within.2.1, within.2.2⟩

/-- The date of a day, counted from 1970-01-01. -/
def ofDays (days : Int) : Date := ofDayOfYear (.ofCount (days + daysTo1970))

/-- The day of a date, counted from 1970-01-01. -/
def toDays (d : Date) : Int :=
  let before := d.year - 1
  let months := totalDays ((monthLengths (isLeapYear d.year)).take (d.month - 1))
  before * 365 + before / 4 - before / 100 + before / 400 + months + (d.day - 1 : Nat) - daysTo1970

/-- A year with at least four digits; it has a sign unless they are four and the year is not
negative. -/
def yearText (year : Int) : String :=
  let sign := if year < 0 then "-" else if year ≤ 9999 then "" else "+"
  sign ++ padded 4 year.natAbs

/-- The month in two digits. -/
def monthText (d : Date) : String := padded 2 d.month

/-- The day of the month in two digits. -/
def dayText (d : Date) : String := padded 2 d.day

/-- A date with hyphens between its parts. -/
def text (d : Date) : String := yearText d.year ++ "-" ++ d.monthText ++ "-" ++ d.dayText

end Date

end Routing
