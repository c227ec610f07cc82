/-!
Dates of the Gregorian calendar, years 1 to 9999, and the week dates of ISO 8601.
-/

namespace LogSelect.Calendar

def isLeap (year : Nat) : Bool :=
  year % 4 == 0 && (year % 100 != 0 || year % 400 == 0)

def daysInMonth (year month : Nat) : Nat :=
  if month = 2 then (if isLeap year then 29 else 28)
  else if month = 4 ∨ month = 6 ∨ month = 9 ∨ month = 11 then 30
  else 31

structure Date where
  year : Nat
  month : Nat
  day : Nat
  deriving DecidableEq, Repr

def Date.isValid (d : Date) : Bool :=
  1 ≤ d.year && d.year ≤ 9999 && 1 ≤ d.month && d.month ≤ 12 &&
    1 ≤ d.day && d.day ≤ daysInMonth d.year d.month

/-- The number of days before the first of January of a year, counted from the year 1. -/
def daysBeforeYear (year : Nat) : Nat :=
  let y := year - 1
  y * 365 + y / 4 - y / 100 + y / 400

def firstWeekday (year : Nat) : Nat :=
  daysBeforeYear year % 7

def weeksInYear (year : Nat) : Nat :=
  if firstWeekday year = 3 ∨ (firstWeekday year = 2 ∧ isLeap year) then 53 else 52

/-- A week date: day 1 is Monday, and week 1 holds the first Thursday of the year. -/
structure WeekDate where
  year : Nat
  week : Nat
  day : Nat
  deriving DecidableEq, Repr

def WeekDate.isValid (d : WeekDate) : Bool :=
  1 ≤ d.year && d.year ≤ 9999 && 1 ≤ d.week && d.week ≤ weeksInYear d.year &&
    1 ≤ d.day && d.day ≤ 7

/-- The number of days from the first of January of the year 1 to a week date.  Week 1 starts in
the old year if the new one starts on a Tuesday, Wednesday or Thursday. -/
def WeekDate.dayNumber (d : WeekDate) : Int :=
  let weekday := firstWeekday d.year
  let monday : Int := (daysBeforeYear d.year : Int) - weekday + (if 3 < weekday then 7 else 0)
  monday + (d.week - 1) * 7 + d.day - 1

/-- A week date of a valid year lies within the calendar unless it falls behind 31 December 9999. -/
def WeekDate.inCalendar (d : WeekDate) : Bool :=
  d.isValid && 0 ≤ d.dayNumber && d.dayNumber < daysBeforeYear 10000

end LogSelect.Calendar
