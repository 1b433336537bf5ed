/-!
# Dates and moments

Days of the proleptic Gregorian calendar from year 1 to year 9999, and moments of a day down to the
microsecond, with or without an offset from universal time in minutes.
-/

namespace AddonUpkeep

/-- A day. -/
structure Date where
  year : Nat
  month : Nat
  day : Nat
  deriving DecidableEq, Repr

/-- A moment, with its offset from universal time in minutes when it has one. -/
structure Moment where
  date : Date
  hour : Nat
  minute : Nat
  second : Nat
  microsecond : Nat
  offset : Option Int
  deriving DecidableEq, Repr

/-- Why numbers form no day or moment. -/
inductive CalendarProblem where
  | year (given : Nat)
  | month
  | day
  | hour
  | minute
  | second
  | offset (minutes : Int)
  deriving DecidableEq, Repr

/-- A number padded with zeros to a width. -/
def padded (width : Nat) (number : Nat) : String :=
  let digits := Nat.toDigits 10 number
  String.ofList (List.replicate (width - digits.length) '0' ++ digits)

/-- A span of minutes as days and seconds, where only the days may be negative. -/
def spanText (minutes : Int) : String :=
  let days := Int.fdiv minutes 1440
  let seconds := (minutes - days * 1440) * 60
  let parts := (if days = 0 then [] else [s!"days={days}"]) ++
    (if seconds = 0 then [] else [s!"seconds={seconds}"])
  let inner := if parts.isEmpty then "0" else ", ".intercalate parts
  s!"datetime.timedelta({inner})"

/-- The wording of a problem. -/
def CalendarProblem.message : CalendarProblem → String
  | year given => s!"year {given} is out of range"
  | month => "month must be in 1..12"
  | day => "day is out of range for month"
  | hour => "hour must be in 0..23"
  | minute => "minute must be in 0..59"
  | second => "second must be in 0..59"
  | offset minutes =>
    let span := spanText minutes
    "offset must be a timedelta strictly between -timedelta(hours=24) and " ++
      s!"timedelta(hours=24), not {span}."

/-- A leap year. -/
def isLeapYear (year : Nat) : Bool :=
  year % 4 == 0 && (year % 100 != 0 || year % 400 == 0)

/-- The number of days of a month. -/
def daysInMonth (year month : Nat) : Nat :=
  if month = 2 then (if isLeapYear year then 29 else 28)
  else if month ∈ [4, 6, 9, 11] then 30
  else 31

namespace Date

/-- The day of three numbers. -/
def make (year month day : Nat) : Except CalendarProblem Date :=
  if year < 1 ∨ 9999 < year then .error (.year year)
  else if month < 1 ∨ 12 < month then .error .month
  else if day < 1 ∨ daysInMonth year month < day then .error .day
  else .ok ⟨year, month, day⟩

/-- Year, month and day with dashes between them. -/
def iso (date : Date) : String :=
  let year := padded 4 date.year
  let month := padded 2 date.month
  let day := padded 2 date.day
  s!"{year}-{month}-{day}"

/-- The number of days before a day, counted from the first day of year 1. -/
def ordinal (date : Date) : Int :=
  let past : Int := date.year - 1
  let months := (List.range (date.month - 1)).map fun month ↦ daysInMonth date.year (month + 1)
  past * 365 + past / 4 - past / 100 + past / 400 + (months.foldl Nat.add 0 : Nat) + date.day

end Date

namespace Moment

/-- The moment of a day. -/
def make (date : Date) (hour minute second microsecond : Nat) (offset : Option Int) :
    Except CalendarProblem Moment :=
  if 23 < hour then .error .hour
  else if 59 < minute then .error .minute
  else if 59 < second then .error .second
  else .ok ⟨date, hour, minute, second, microsecond, offset⟩

/-- The offset with its sign, in hours and minutes. -/
def offsetText (minutes : Int) : String :=
  let sign := if minutes < 0 then "-" else "+"
  let hours := padded 2 (minutes.natAbs / 60)
  let rest := padded 2 (minutes.natAbs % 60)
  s!"{sign}{hours}:{rest}"

/-- Date and time with a separator between them; a fraction of a second only when there is one. -/
def iso (separator : String) (moment : Moment) : String :=
  let day := moment.date.iso
  let hour := padded 2 moment.hour
  let minute := padded 2 moment.minute
  let second := padded 2 moment.second
  let fraction := if moment.microsecond = 0 then "" else "." ++ padded 6 moment.microsecond
  let offset := (moment.offset.map offsetText).getD ""
  s!"{day}{separator}{hour}:{minute}:{second}{fraction}{offset}"

/-- Microseconds from the start of year 1 in universal time; without an offset, in local time. -/
def instant (moment : Moment) : Int :=
  let minutes : Int :=
    (moment.date.ordinal * 24 + moment.hour) * 60 + moment.minute - moment.offset.getD 0
  (minutes * 60 + moment.second) * 1000000 + moment.microsecond

/-- The same point of time.  A moment with an offset never equals one without. -/
def isSame (left right : Moment) : Bool :=
  left.offset.isSome == right.offset.isSome && left.instant == right.instant

end Moment

end AddonUpkeep
