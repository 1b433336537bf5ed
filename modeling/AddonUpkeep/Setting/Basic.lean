import AddonUpkeep.Json.Basic
import AddonUpkeep.Number.Layout
import AddonUpkeep.Number.Reading
import AddonUpkeep.Setting.Calendar
import AddonUpkeep.Text.Quoted

/-!
# Settings

The values that a settings file can hold.  Every document is one; bytes, dates, moments, sets, pairs
and keys of every kind come on top.  A setting has a plain text and a literal, which differ for
texts, dates and moments.  One that holds an integer of more digits than are written has neither.
-/

namespace AddonUpkeep

/-- The kinds of collections. -/
inductive Collection where
  | list
  | map
  | set
  deriving DecidableEq, Repr

/-- A value of a settings file.  A collection that holds itself is cut at the inner reference. -/
inductive Setting where
  | null
  | bool (value : Bool)
  | int (value : Int)
  | float (value : Number.Binary64)
  | str (text : String)
  | bytes (data : List UInt8)
  | date (day : Date)
  | moment (time : Moment)
  | list (items : List Setting)
  | pair (first second : Setting)
  | map (entries : List (Setting × Setting))
  | set (members : List Setting)
  | enclosing (collection : Collection)
  deriving Inhabited

/-- The settings of one addon, in the order of the file. -/
abbrev Settings := Table Setting Setting

namespace Setting

open AddonUpkeep.Text AddonUpkeep.Number

mutual

/-- A document as a setting. -/
def ofJson : Json → Setting
  | .null => null
  | .bool value => bool value
  | .int value => int value
  | .float value => float value
  | .str text => str text
  | .arr items => list (ofItems items)
  | .obj fields => map (ofFields fields)

/-- The items of a document as settings. -/
def ofItems : List Json → List Setting
  | [] => []
  | item :: items => ofJson item :: ofItems items

/-- The fields of a document as entries of settings. -/
def ofFields : List (String × Json) → List (Setting × Setting)
  | [] => []
  | (name, value) :: fields => (str name, ofJson value) :: ofFields fields

end

/-- The number that a setting counts as: truth values count as one and zero. -/
def asInt? : Setting → Option Int
  | bool value => some (if value then 1 else 0)
  | int value => some value
  | _ => none

/-- Equality of settings as keys.  Numbers and truth values are compared by value, moments by the
point of time.  Collections are no keys and equal nothing, and a not-a-number equals nothing. -/
def isSameKey (left right : Setting) : Bool :=
  match left, right with
  | null, null => true
  | str a, str b => a == b
  | bytes a, bytes b => a == b
  | date a, date b => a == b
  | moment a, moment b => a.isSame b
  | float a, float b => a.sameNumber b
  | float a, other | other, float a =>
    match other.asInt? with
    | some value => a.isInt value
    | none => false
  | a, b => match a.asInt?, b.asInt? with
    | some a, some b => a == b
    | _, _ => false

instance : BEq Setting := ⟨isSameKey⟩

/-- A setting that can be a key. -/
def isKey : Setting → Bool
  | list _ | map _ | set _ | enclosing _ => false
  | _ => true

/-- The kind of a setting as messages name it. -/
def kindName : Setting → String
  | null => "NoneType"
  | bool _ => "bool"
  | int _ => "int"
  | float _ => "float"
  | str _ => "str"
  | bytes _ => "bytes"
  | date _ => "datetime.date"
  | moment _ => "datetime.datetime"
  | list _ | enclosing .list => "list"
  | pair _ _ => "tuple"
  | map _ | enclosing .map => "dict"
  | set _ | enclosing .set => "set"

/-- The literal of a day. -/
def dateLiteral (day : Date) : String := s!"datetime.date({day.year}, {day.month}, {day.day})"

/-- The literal of an offset. -/
def offsetLiteral (minutes : Int) : String :=
  let span := spanText minutes
  if minutes = 0 then "datetime.timezone.utc" else s!"datetime.timezone({span})"

/-- The literal of a moment.  Seconds and microseconds are left out when they are zero. -/
def momentLiteral (time : Moment) : String :=
  let smallest := if time.microsecond ≠ 0 then s!", {time.second}, {time.microsecond}"
    else if time.second ≠ 0 then s!", {time.second}" else ""
  let zone := match time.offset with
    | none => ""
    | some minutes => ", tzinfo=" ++ offsetLiteral minutes
  s!"datetime.datetime({time.date.year}, {time.date.month}, {time.date.day}, " ++
    s!"{time.hour}, {time.minute}{smallest}{zone})"

/-- What stands between an opening and a closing mark. -/
def enclose (opening : String) (inner : List String) (closing : String) : String :=
  opening ++ ", ".intercalate inner ++ closing

mutual

/-- The literal of a setting. -/
def literal : Setting → String
  | null => "None"
  | bool true => "True"
  | bool false => "False"
  | int value => toString value
  | float value => floatText .plain value
  | str text => quoted text
  | bytes data => quotedBytes data
  | date day => dateLiteral day
  | moment time => momentLiteral time
  | list items => enclose "[" (literals items) "]"
  | pair first second => enclose "(" [literal first, literal second] ")"
  | map entries => enclose "\x7b" (entryLiterals entries) "\x7d"
  | set [] => "set()"
  | set (member :: members) => enclose "\x7b" (literal member :: literals members) "\x7d"
  | enclosing .list => "[...]"
  | enclosing .map => "\x7b...\x7d"
  | enclosing .set => "set(...)"

/-- The literals of a row of settings. -/
def literals : List Setting → List String
  | [] => []
  | item :: items => literal item :: literals items

/-- The literals of entries, key and value with a colon between them. -/
def entryLiterals : List (Setting × Setting) → List String
  | [] => []
  | (key, value) :: entries => (literal key ++ ": " ++ literal value) :: entryLiterals entries

end

mutual

/-- A setting has a text, unless it holds an integer of more digits than are written. -/
def hasText : Setting → Bool
  | int value => isShort value
  | list items | set items => allHaveText items
  | pair first second => hasText first && hasText second
  | map entries => entriesHaveText entries
  | _ => true

/-- All settings of a row have a text. -/
def allHaveText : List Setting → Bool
  | [] => true
  | item :: items => hasText item && allHaveText items

/-- The keys and the values of all entries have a text. -/
def entriesHaveText : List (Setting × Setting) → Bool
  | [] => true
  | (key, value) :: entries => hasText key && hasText value && entriesHaveText entries

end

/-- The plain text of a setting: texts, days and moments without the marks of a literal. -/
def text : Setting → String
  | str text => text
  | date day => day.iso
  | moment time => time.iso " "
  | other => other.literal

/-- The text of a setting that is a text. -/
def asText? : Setting → Option String
  | str text => some text
  | _ => none

@[simp]
theorem text_str (value : String) : (str value).text = value := rfl

@[simp]
theorem ofJson_str (value : String) : ofJson (.str value) = str value := rfl

end Setting

end AddonUpkeep
