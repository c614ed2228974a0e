/-!
# The proleptic Gregorian calendar

Dates of the years 1 to 9999 and their position on the day count, together with the week dates of
ISO 8601.

* `Calendar.ordinal` is the number of a day, counted from the first day of year 1;
* `Calendar.ofWeek?` finds the day of a week date.
-/

namespace JournalHerald.Calendar

/-- A leap year has a 29th of February. -/
def isLeap (year : Nat) : Bool :=
  year % 4 == 0 && (year % 100 != 0 || year % 400 == 0)

/-- The days of the months of a year. -/
def monthLengths (year : Nat) : List Nat :=
  [31, if isLeap year then 29 else 28, 31, 30, 31, 30, 31, 31, 30, 31, 30, 31]

/-- The days of a month of a year, where January is the first. -/
def monthLength (year month : Nat) : Nat :=
  (monthLengths year).getD (month - 1) 0

/-- The days before the first of January of a year. -/
def daysBeforeYear (year : Nat) : Nat :=
  let y := year - 1
  365 * y + y / 4 - y / 100 + y / 400

/-- The number of a date, where the first day of year 1 has the number 1. -/
def ordinal (year month day : Nat) : Nat :=
  daysBeforeYear year + ((monthLengths year).take (month - 1)).foldr (· + ·) 0 + day

/-- The month and the day of the month of the `n`-th day of a year, counted from zero. -/
def monthAndDay (lengths : List Nat) (n : Nat) : Nat × Nat :=
  match lengths with
  | [] => (1, n + 1)
  | l :: rest => if n < l then (1, n + 1) else let (m, d) := monthAndDay rest (n - l); (m + 1, d)

/-- The date with a given number. -/
def ofOrdinal (n : Nat) : Nat × Nat × Nat :=
  let guess := (n - 1) / 366 + 1
  let later := (List.range 30).map (guess + ·)
  let year := later.foldl (fun y k => if daysBeforeYear k < n then k else y) guess
  let (m, d) := monthAndDay (monthLengths year) (n - 1 - daysBeforeYear year)
  (year, m, d)

/-- The number of the Monday of the first week of a year, the one with its first Thursday. -/
def firstMonday (year : Nat) : Int :=
  let first : Int := ordinal year 1 1
  -- day 1 of the count is a Monday
  let weekday := (first + 6) % 7
  if 3 < weekday then first - weekday + 7 else first - weekday

/-- A year has 53 weeks if it begins on a Thursday, or on a Wednesday as a leap year. -/
def hasLongWeeks (year : Nat) : Bool :=
  let weekday := (ordinal year 1 1 + 6) % 7
  weekday == 3 || (weekday == 2 && isLeap year)

/-- The date of a day of a week, if there is one. The days of the year 0 lie before the day count, in no
month; they pass for days of year 1 with the month zero. -/
def ofWeek? (year week day : Nat) : Option (Nat × Nat × Nat) :=
  if 1 ≤ week ∧ 1 ≤ day ∧ day ≤ 7 ∧ (week ≤ 52 ∨ (week = 53 ∧ hasLongWeeks year)) then
    let n := firstMonday year + (week - 1 : Nat) * 7 + (day - 1 : Nat)
    if year = 0 ∨ n < 1 then some (1, 0, 0) else some (ofOrdinal n.toNat)
  else none

end JournalHerald.Calendar
