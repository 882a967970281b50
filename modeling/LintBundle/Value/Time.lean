import LintBundle.Number.Shortest

/-!
# Value/Time — calendar dates and moments

A date is a day of the Gregorian calendar; a moment adds a time of day and, where one is known, the
offset of its zone in seconds.  Both are checked when they are built, and print in ISO form.
-/

namespace LintBundle

/-- A day of the calendar. -/
structure Date where
  year : Nat
  month : Nat
  day : Nat
  deriving DecidableEq, Repr

namespace Date

/-- The leap years of the Gregorian calendar. -/
def isLeap (year : Nat) : Bool := year % 4 = 0 && (year % 100 ≠ 0 || year % 400 = 0)

/-- The days of a month. -/
def daysIn (year month : Nat) : Nat :=
  if month = 2 then (if isLeap year then 29 else 28)
  else if month = 4 || month = 6 || month = 9 || month = 11 then 30
  else 31

/-- The day with these numbers, if the calendar has it. -/
def ofNumbers? (year month day : Nat) : Option Date :=
  if 1 ≤ year && year ≤ 9999 && 1 ≤ month && month ≤ 12 && 1 ≤ day && day ≤ daysIn year month then
    some ⟨year, month, day⟩
  else none

end Date

/-- A day with a time, and the offset of its zone in seconds where one is known. -/
structure Moment where
  date : Date
  hour : Nat
  minute : Nat
  second : Nat
  microsecond : Nat
  offset : Option Int
  deriving DecidableEq, Repr

/-- The moment with these numbers, if there is one; an offset is less than a day. -/
def Moment.ofNumbers? (date : Date) (hour minute second microsecond : Nat) (offset : Option Int) :
    Option Moment :=
  if hour < 24 && minute < 60 && second < 60 && microsecond < 1000000
      && (offset.getD 0).natAbs < 86400 then
    some ⟨date, hour, minute, second, microsecond, offset⟩
  else none

/-! ## Instants -/

/-- The number of a day, counted from the first day of year one. -/
def Date.dayNumber (d : Date) : Nat :=
  let before := d.year - 1
  let months := (List.range (d.month - 1)).foldl (fun n m => n + Date.daysIn d.year (m + 1)) 0
  365 * before + before / 4 - before / 100 + before / 400 + months + (d.day - 1)

/-- Microseconds since the first day of year one, by the clock of the moment's zone. -/
def Moment.clock (m : Moment) : Int :=
  1000000 * (86400 * m.date.dayNumber + 3600 * m.hour + 60 * m.minute + m.second : Nat)
    + m.microsecond

/-- Whether two moments are one: where both zones are known, they are the same instant, and where
none is, the clocks agree. -/
def Moment.same (m n : Moment) : Bool :=
  match m.offset, n.offset with
  | some a, some b => m.clock - 1000000 * a = n.clock - 1000000 * b
  | none, none => m.clock = n.clock
  | _, _ => false

/-! ## ISO text -/

/-- A number with leading zeros up to a width. -/
def padded (width n : Nat) : List Char :=
  let ds := decimalText n
  List.replicate (width - ds.length) '0' ++ ds

/-- `2020-01-31`. -/
def Date.iso (d : Date) : List Char :=
  padded 4 d.year ++ '-' :: padded 2 d.month ++ '-' :: padded 2 d.day

/-- `+01:00`, with seconds where there are any. -/
def offsetText (seconds : Int) : List Char :=
  let n := seconds.natAbs
  (if seconds < 0 then '-' else '+') :: padded 2 (n / 3600) ++ ':' :: padded 2 (n / 60 % 60)
    ++ (if n % 60 = 0 then [] else ':' :: padded 2 (n % 60))

/-- `2020-01-31T12:00:00`, with a fraction and an offset where there are any. -/
def Moment.iso (separator : Char) (m : Moment) : List Char :=
  m.date.iso ++ separator :: padded 2 m.hour ++ ':' :: padded 2 m.minute ++ ':' :: padded 2 m.second
    ++ (if m.microsecond = 0 then [] else '.' :: padded 6 m.microsecond)
    ++ (m.offset.elim [] offsetText)

end LintBundle
