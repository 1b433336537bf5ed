import AddonUpkeep.Number.Reading
import AddonUpkeep.Setting.Calendar
import AddonUpkeep.Yaml.Cursor

/-!
# Timestamps

The digits of a date, alone or with a time of day behind it, which may have a fraction of a second
and an offset from universal time.
-/

namespace AddonUpkeep.Yaml

open AddonUpkeep.Number

/-- The form of a text is the text without a line feed at its end. -/
def formOf (text : List Char) : List Char :=
  if text.getLast? = some '\n' then text.dropLast else text

/-- The offset of a time: universal time itself, or hours and minutes with a sign. -/
inductive ZoneText where
  | universal
  | offset (isNegative : Bool) (hours minutes : List Char)
  deriving DecidableEq, Repr

/-- A time of day. -/
structure TimeText where
  hour : List Char
  minute : List Char
  second : List Char
  fraction : List Char
  zone : Option ZoneText
  deriving DecidableEq, Repr

/-- A timestamp. -/
structure TimestampText where
  year : List Char
  month : List Char
  day : List Char
  time : Option TimeText
  deriving DecidableEq, Repr

namespace TimestampText

/-- Digits in front of a text, as many as given. -/
def digits? (count : Nat) (text : List Char) : Option (List Char × List Char) :=
  let digits := text.take count
  if digits.length = count ∧ digits.all Char.isDigit then some (digits, text.drop count) else none

/-- One or two digits in front of a text. -/
def shortDigits? (text : List Char) : Option (List Char × List Char) :=
  (digits? 2 text).or (digits? 1 text)

/-- What follows a character in front of a text. -/
def behind? (c : Char) : List Char → Option (List Char)
  | [] => none
  | d :: rest => if c = d then some rest else none

/-- The offset that a text is, if it is none but that. -/
def zone? (text : List Char) : Option ZoneText :=
  match text with
  | ['Z'] => some .universal
  | sign :: rest =>
    if sign = '+' ∨ sign = '-' then do
      let (hours, rest) ← shortDigits? rest
      match rest with
      | [] => some (.offset (sign == '-') hours [])
      | _ =>
        let (minutes, rest) ← digits? 2 (← behind? ':' rest)
        if rest.isEmpty then some (.offset (sign == '-') hours minutes) else none
    else none
  | [] => none

/-- The time of day that a text is. -/
def time? (text : List Char) : Option TimeText := do
  let (hour, rest) ← shortDigits? text
  let (minute, rest) ← digits? 2 (← behind? ':' rest)
  let (second, rest) ← digits? 2 (← behind? ':' rest)
  let (fraction, rest) := match rest with
    | '.' :: rest => (rest.takeWhile Char.isDigit, rest.dropWhile Char.isDigit)
    | rest => ([], rest)
  if rest.isEmpty then return ⟨hour, minute, second, fraction, none⟩
  else return ⟨hour, minute, second, fraction, some (← zone? (rest.dropWhile isWhite))⟩

/-- The time behind a date: a letter or white space stands in front of it. -/
def timeBehind? (text : List Char) : Option TimeText :=
  match text with
  | c :: rest =>
    if c = 'T' ∨ c = 't' then time? rest
    else if isWhite c then time? (rest.dropWhile isWhite)
    else none
  | [] => none

/-- The timestamp that a text is. -/
def parse? (text : List Char) : Option TimestampText := do
  let (year, rest) ← digits? 4 text
  let (month, rest) ← shortDigits? (← behind? '-' rest)
  let (day, rest) ← shortDigits? (← behind? '-' rest)
  if rest.isEmpty then return ⟨year, month, day, none⟩
  else return ⟨year, month, day, some (← timeBehind? rest)⟩

/-- A date alone counts as one by its form only when month and day have two digits. -/
def isFull (stamp : TimestampText) : Bool :=
  stamp.time.isSome || (stamp.month.length == 2 && stamp.day.length == 2)

/-- The number that digits denote. -/
def number (digits : List Char) : Nat := digitsValue 10 digits

/-- The microseconds of a fraction, of which six digits count. -/
def microseconds (fraction : List Char) : Nat :=
  number ((fraction ++ List.replicate 6 '0').take 6)

/-- The minutes of an offset, which is shorter than a day. -/
def zoneMinutes : ZoneText → Except CalendarProblem Int
  | .universal => .ok 0
  | .offset isNegative hours minutes =>
    let span : Int := number hours * 60 + number minutes
    let span := if isNegative then -span else span
    if span.natAbs < 1440 then .ok span else .error (.offset span)

/-- The date or moment of a timestamp. -/
def value (stamp : TimestampText) : Except CalendarProblem (Date ⊕ Moment) := do
  let date := Date.make (number stamp.year) (number stamp.month) (number stamp.day)
  match stamp.time with
  | none => return .inl (← date)
  | some time =>
    let offset ← time.zone.mapM zoneMinutes
    let moment ← Moment.make (← date) (number time.hour) (number time.minute)
      (number time.second) (microseconds time.fraction) offset
    return .inr moment

end TimestampText

end AddonUpkeep.Yaml
