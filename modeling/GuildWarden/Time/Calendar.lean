/-
  This file defines the proleptic Gregorian calendar: leap
  years, the lengths of months, and the number of a day
  counted from the first day of year one.

  Key definitions include:
    * `isLeap`
    * `daysInMonth`
    * `dayNumber`
    * `ofDayNumber`
    * `ofWeek?`
-/

namespace GuildWarden.Calendar

/- A day of the calendar. -/
structure Date where
  year : Nat
  month : Nat
  day : Nat
deriving DecidableEq, Repr

/- Every fourth year is a leap year, but of the centuries only every fourth. -/
def isLeap
    (year : Nat) : Bool :=
  year % 4 == 0 && (year % 100 != 0 || year % 400 == 0)

/- The length of a month. -/
def daysInMonth
    (year month : Nat) : Nat :=
  if month = 2 then (if isLeap year then 29 else 28)
  else if month = 4 || month = 6 || month = 9 || month = 11 then 30
  else 31

/- Dates of the years 1 to 9999. -/
def Date.isValid
    (d : Date) : Bool :=
  1 ≤ d.year && d.year ≤ 9999 && 1 ≤ d.month && d.month ≤ 12 &&
    1 ≤ d.day && d.day ≤ daysInMonth d.year d.month

/- The days of the years before a year. -/
def daysBeforeYear
    (year : Nat) : Nat :=
  let y := year - 1
  y * 365 + y / 4 - y / 100 + y / 400

/- The days of the months before a month. -/
def daysBeforeMonth
    (year month : Nat) : Nat :=
  (List.range (month - 1)).foldl
    (fun n m => n + daysInMonth year (m + 1)) 0

/- The number of a day; the first day of year one is day 1. -/
def dayNumber
    (d : Date) : Nat :=
  daysBeforeYear d.year + daysBeforeMonth d.year d.month + d.day

/- The month and day of the day with index `rest` in a year. -/
def monthDay
    (year : Nat) :
    (months : Nat) → (month rest : Nat) → Date
  | 0, month, rest => ⟨year, month, rest + 1⟩
  | months + 1, month, rest =>
    let n := daysInMonth year month
    if rest < n then ⟨year, month, rest + 1⟩
    else monthDay year months (month + 1) (rest - n)

/-
  The day with a given positive number. The year is found from
  cycles of 400, 100, 4 and 1 years; the last day of a cycle
  belongs to its last year.
-/
def ofDayNumber
    (number : Nat) : Date :=
  let n := number - 1
  let n400 := n / 146097
  let n := n % 146097
  let n100 := min 3 (n / 36524)
  let n := n - n100 * 36524
  let n4 := n / 1461
  let n := n % 1461
  let n1 := min 3 (n / 365)
  let n := n - n1 * 365
  monthDay (n400 * 400 + n100 * 100 + n4 * 4 + n1 + 1) 11 1 n

/- The day of the week, with Monday as 0. -/
def weekday
    (d : Date) : Nat :=
  (dayNumber d + 6) % 7

/- The number of the Monday of the first week of a year. -/
def firstMonday
    (year : Nat) : Nat :=
  let first := dayNumber ⟨year, 1, 1⟩
  let w := weekday ⟨year, 1, 1⟩
  if 3 < w then first + 7 - w else first - w

/- Whether a year has 53 weeks. -/
def isLongYear
    (year : Nat) : Bool :=
  let w := weekday ⟨year, 1, 1⟩
  w == 3 || (w == 2 && isLeap year)

/- The date of a day of a week of a year. -/
def ofWeek?
    (year week day : Nat) : Option Date :=
  if 1 ≤ year && 1 ≤ week &&
      (week ≤ 52 || (week == 53 && isLongYear year)) &&
      1 ≤ day && day ≤ 7 then
    some (ofDayNumber (firstMonday year + (week - 1) * 7 + (day - 1)))
  else none

end GuildWarden.Calendar
