/-!
# Dates and instants

A setting may be a date or an instant of the Gregorian calendar, and a log line is stamped
with an instant. Days are counted from 1 January of the year 1, so two instants are the same
moment when their counts of microseconds, less their offsets, agree.
-/

set_option autoImplicit false

namespace Flowmeter

/-- A day of the Gregorian calendar. -/
structure Date where
  year : Nat
  month : Nat
  day : Nat
deriving DecidableEq, Repr

/-- A day and a time of day, and how many seconds the clock is ahead of universal time, if the
    instant says so. -/
structure Instant where
  date : Date
  hour : Nat
  minute : Nat
  second : Nat
  microsecond : Nat
  offset : Option Int
deriving DecidableEq, Repr

namespace Date

/-- Whether a year has 366 days. -/
def isLeap (year : Nat) : Bool :=
  year % 4 == 0 && (year % 100 != 0 || year % 400 == 0)

/-- The days of a month. -/
def daysIn (year month : Nat) : Nat :=
  match month with
  | 2 => if isLeap year then 29 else 28
  | 4 | 6 | 9 | 11 => 30
  | _ => 31

/-- The days of a year before a month. -/
def daysBefore (year month : Nat) : Nat :=
  (List.range (month - 1)).foldl (fun days m => days + daysIn year (m + 1)) 0

/-- The number of the day, counted from nought on 1 January of the year 1. -/
def ordinal (d : Date) : Nat :=
  let y := d.year - 1
  y * 365 + y / 4 - y / 100 + y / 400 + daysBefore d.year d.month + (d.day - 1)

/-- Year, month and day of a day number, counted from 1 January 1970; years before the first
    are nought and below. Years are counted from March, so that the leap day is the last of its
    year, in eras of 400 years and 146097 days. -/
def ofDay1970 (n : Int) : Int × Nat × Nat :=
  let days := n + 719468
  let era := days / 146097
  let dayOfEra := (days % 146097).toNat
  let yearOfEra := (dayOfEra - dayOfEra / 1460 + dayOfEra / 36524 - dayOfEra / 146096) / 365
  let dayOfYear := dayOfEra - (365 * yearOfEra + yearOfEra / 4 - yearOfEra / 100)
  let march := (5 * dayOfYear + 2) / 153
  let day := dayOfYear - (153 * march + 2) / 5 + 1
  let month := if march < 10 then march + 3 else march - 9
  (yearOfEra + era * 400 + (if month ≤ 2 then 1 else 0), month, day)

end Date

/-- The microseconds since the beginning of the year 1 in universal time; an instant without
    offset counts as universal. -/
def Instant.microseconds (t : Instant) : Int :=
  let seconds : Int :=
    t.date.ordinal * 86400 + t.hour * 3600 + t.minute * 60 + t.second - t.offset.getD 0
  seconds * 1000000 + t.microsecond

/-- How a message shows a span of seconds: days, of which there may be less than none, and the
    seconds left over. -/
def showSpan (seconds : Int) : String :=
  let days := seconds / 86400
  let rest := seconds % 86400
  let parts := (if days = 0 then [] else [s!"days={days}"]) ++
    (if rest = 0 then [] else [s!"seconds={rest}"])
  "datetime.timedelta(" ++ ", ".intercalate parts ++ ")"

/-- A number with at least `width` digits. -/
def padded (width n : Nat) : String :=
  let text := toString n
  String.ofList (List.replicate (width - text.length) '0') ++ text

/-- The stamp of a whole number of seconds since 1970 in universal time. -/
def stamp (seconds : Int) : String :=
  let (year, month, day) := Date.ofDay1970 (seconds / 86400)
  let s := (seconds % 86400).toNat
  toString year ++ "-" ++ padded 2 month ++ "-" ++ padded 2 day ++ "T" ++
    padded 2 (s / 3600) ++ ":" ++ padded 2 (s / 60 % 60) ++ ":" ++ padded 2 (s % 60)

/-! ## Times that have a stamp -/

/-- Why a number of seconds since 1970 has no stamp. -/
inductive StampFault where
  | notANumber
  /-- The number is beyond what a count of seconds can hold. -/
  | beyondCount
  /-- The year is beyond what a calendar can hold. -/
  | beyondCalendar
  /-- The year is beyond what can be written. -/
  | beyondYears
deriving DecidableEq, Repr

def StampFault.message : StampFault → String
  | .notANumber => "Invalid value NaN (not a number)"
  | .beyondCount => "timestamp out of range for platform time_t"
  | .beyondCalendar => "[Errno 75] Value too large for defined data type"
  | .beyondYears => "year out of range"

/-- The year in which years of a calendar are counted from. -/
def firstYear : Int := 1900

/-- Whether an integer has room in 32 bits, its sign included. -/
def hasWordSize (n : Int) : Bool :=
  -(Nat.pow 2 31 : Int) ≤ n && n < (Nat.pow 2 31 : Int)

/-- A number of seconds that has a stamp: one of 64 bits, whose year has room in 32 bits both
    as a calendar counts it and as it is written. -/
def checkSecond (seconds : Int) : Except StampFault Int :=
  let year := (Date.ofDay1970 (seconds / 86400)).1
  if seconds < -(Nat.pow 2 63 : Int) ∨ (Nat.pow 2 63 : Int) ≤ seconds then .error .beyondCount
  else if !hasWordSize (year - firstYear) then .error .beyondCalendar
  else if !hasWordSize year then .error .beyondYears
  else .ok seconds

end Flowmeter
