/-!
# Calendar dates

* `Date`: a day of the calendar, without a check that the month has it.
* `Date.isValid`: whether the month has the day.
* `Date.text`, `Date.ofText?`: year, month and day with four, two and two digits and hyphens between
  them.
* `Date.daysBefore`, `Date.yearOfDay`, `Date.ofDay`: the days before a year, and the year and the
  date of a day, counted from the first day of the year 1.
-/

namespace Electorate

/-- A day of the calendar. -/
structure Date where
  /-- Year. -/
  year : Nat
  /-- Month from 1 to 12. -/
  month : Nat
  /-- Day of the month. -/
  day : Nat
deriving DecidableEq, Repr

namespace Date

/-- The digits of `n`, zeros in front up to `width` of them. -/
def padded (width n : Nat) : String :=
  let digits := Nat.toDigits 10 n
  String.ofList (List.replicate (width - digits.length) '0' ++ digits)

/-- A date as year, month and day with hyphens between them. -/
def text (d : Date) : String := s!"{padded 4 d.year}-{padded 2 d.month}-{padded 2 d.day}"

/-- Whether a year has a day more. -/
def isLeap (year : Nat) : Bool := year % 4 == 0 && (year % 100 != 0 || year % 400 == 0)

/-- The number of days of a month; none if there is no such month. -/
def daysInMonth (year month : Nat) : Nat :=
  if month = 2 then if isLeap year then 29 else 28
  else if month ∈ [4, 6, 9, 11] then 30
  else if 1 ≤ month ∧ month ≤ 12 then 31
  else 0

/-- Whether the calendar has the day. -/
def isValid (d : Date) : Bool :=
  1 ≤ d.year && 1 ≤ d.day && d.day ≤ daysInMonth d.year d.month

/-- The day that a text names by year, month and day with hyphens between them. -/
def ofText? (s : String) : Option Date :=
  match s.toList with
  | [a, b, c, d, '-', e, f, '-', g, h] =>
    let digits := [a, b, c, d, e, f, g, h]
    if digits.all (fun c => '0' ≤ c && c ≤ '9') then
      let value (cs : List Char) : Nat := cs.foldl (fun n c => 10 * n + (c.toNat - 48)) 0
      let date : Date := ⟨value [a, b, c, d], value [e, f], value [g, h]⟩
      if date.isValid then some date else none
    else none
  | _ => none

/-- The first day of a year. -/
def newYear (year : Nat) : Date := ⟨year, 1, 1⟩

/-- The number of days from the first day of the year 1 to that of a year. -/
def daysBefore (year : Int) : Int :=
  let past := year - 1
  365 * past + past / 4 - past / 100 + past / 400

/-- The year of a day, given as the number of days since the first day of the year 1. A year has
146097 / 400 days in the mean, and an estimate by this mean is wrong by one year at most. -/
def yearOfDay (day : Int) : Int :=
  let estimate := day * 400 / 146097 + 1
  if day < daysBefore estimate then estimate - 1
  else if daysBefore (estimate + 1) ≤ day then estimate + 1
  else estimate

/-- The date of a day of a year, counted from zero within the given months. -/
def inMonths (year rest : Nat) : List Nat → Date
  | [] => ⟨year, 12, 31⟩
  | month :: months =>
    if rest < daysInMonth year month then ⟨year, month, rest + 1⟩
    else inMonths year (rest - daysInMonth year month) months

/-- The date of a day, given as the number of days since the first day of the year 1. -/
def ofDay (day : Int) : Date :=
  let year := yearOfDay day
  inMonths year.toNat (day - daysBefore year).toNat [1, 2, 3, 4, 5, 6, 7, 8, 9, 10, 11, 12]

/-- Dates in order: by year, then by month, then by day. -/
def before (a b : Date) : Bool :=
  a.year < b.year || (a.year == b.year && (a.month < b.month ||
    (a.month == b.month && a.day < b.day)))

end Date

end Electorate
