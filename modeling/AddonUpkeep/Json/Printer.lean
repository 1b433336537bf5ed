import AddonUpkeep.Json.Basic
import AddonUpkeep.Number.Layout
import AddonUpkeep.Text.Quoted

/-!
# Writing documents

A document is written on one line for the cluster, and indented with sorted field names for the log.
Both forms are ASCII: other characters are written by their UTF-16 units.
-/

namespace AddonUpkeep.Json

open AddonUpkeep.Text AddonUpkeep.Number

/-- A UTF-16 unit written by its four hexadecimal digits. -/
def unitEscape (unit : Nat) : List Char := '\\' :: 'u' :: hexDigits 4 unit

/-- The written form of one character of a text. -/
def escapedChar (c : Char) : List Char :=
  if c = quotationMark then ['\\', quotationMark]
  else if c = '\\' then ['\\', '\\']
  else if c = '\n' then ['\\', 'n']
  else if c = '\r' then ['\\', 'r']
  else if c = '\t' then ['\\', 't']
  else if c = '\x08' then ['\\', 'b']
  else if c = '\x0C' then ['\\', 'f']
  else if 0x20 ≤ c.toNat ∧ c.toNat ≤ 0x7E then [c]
  else if c.toNat < 0x10000 then unitEscape c.toNat
  else
    let offset := c.toNat - 0x10000
    unitEscape (0xD800 + offset / 0x400) ++ unitEscape (0xDC00 + offset % 0x400)

/-- A text with its quotation marks. -/
def textChars (text : String) : List Char :=
  quotationMark :: text.toList.flatMap escapedChar ++ [quotationMark]

/-- The literal of a document that has no parts. -/
def scalarChars : Json → List Char
  | null => ['n', 'u', 'l', 'l']
  | bool true => ['t', 'r', 'u', 'e']
  | bool false => ['f', 'a', 'l', 's', 'e']
  | int value => (toString value).toList
  | float value => (floatText .document value).toList
  | str text => textChars text
  | arr _ | obj _ => []

mutual

/-- A document on one line. -/
def lineChars : Json → List Char
  | arr items => '[' :: itemsChars items ++ [']']
  | obj fields => '{' :: fieldsChars fields ++ ['}']
  | scalar => scalarChars scalar

/-- Items on one line, with a comma and a space between neighbours. -/
def itemsChars : List Json → List Char
  | [] => []
  | [item] => lineChars item
  | item :: items => lineChars item ++ ',' :: ' ' :: itemsChars items

/-- Fields on one line, with a comma and a space between neighbours. -/
def fieldsChars : List (String × Json) → List Char
  | [] => []
  | [(name, value)] => textChars name ++ ':' :: ' ' :: lineChars value
  | (name, value) :: fields =>
    textChars name ++ ':' :: ' ' :: lineChars value ++ ',' :: ' ' :: fieldsChars fields

end

/-- A document on one line, as it is sent to the cluster. -/
def line (document : Json) : String := String.ofList (lineChars document)

/-- A line feed and the indentation of a depth. -/
def lineBreak (depth : Nat) : List Char := '\n' :: List.replicate (2 * depth) ' '

/-- The order of field names: by code points from the first difference on. -/
def nameLe (left right : String) : Bool := decide (left ≤ right)

/-- Put a field at its place among fields that are sorted by name. -/
def insertField (field : String × Json) : List (String × Json) → List (String × Json)
  | [] => [field]
  | other :: fields =>
    if nameLe field.1 other.1 then field :: other :: fields
    else other :: insertField field fields

/-- Fields sorted by name. -/
def sortFields (fields : List (String × Json)) : List (String × Json) :=
  fields.foldr insertField []

mutual

/-- The same document with the fields of every object sorted by name. -/
def sorted : Json → Json
  | arr items => arr (sortedItems items)
  | obj fields => obj (sortFields (sortedFields fields))
  | scalar => scalar

/-- The items, each sorted inside. -/
def sortedItems : List Json → List Json
  | [] => []
  | item :: items => sorted item :: sortedItems items

/-- The fields, each sorted inside. -/
def sortedFields : List (String × Json) → List (String × Json)
  | [] => []
  | (name, value) :: fields => (name, sorted value) :: sortedFields fields

end

mutual

/-- A document over several lines, two spaces deeper for every level. -/
def indentedChars (depth : Nat) : Json → List Char
  | arr [] => ['[', ']']
  | obj [] => ['{', '}']
  | arr (item :: items) =>
    '[' :: lineBreak (depth + 1) ++ indentedChars (depth + 1) item ++
      indentedItems (depth + 1) items ++ lineBreak depth ++ [']']
  | obj ((name, value) :: fields) =>
    '{' :: lineBreak (depth + 1) ++ textChars name ++ ':' :: ' ' ::
      indentedChars (depth + 1) value ++ indentedFields (depth + 1) fields ++
      lineBreak depth ++ ['}']
  | scalar => scalarChars scalar

/-- The items behind the first, each on a line of its own. -/
def indentedItems (depth : Nat) : List Json → List Char
  | [] => []
  | item :: items =>
    ',' :: lineBreak depth ++ indentedChars depth item ++ indentedItems depth items

/-- The fields behind the first, each on a line of its own. -/
def indentedFields (depth : Nat) : List (String × Json) → List Char
  | [] => []
  | (name, value) :: fields =>
    ',' :: lineBreak depth ++ textChars name ++ ':' :: ' ' :: indentedChars depth value ++
      indentedFields depth fields

end

/-- A document over several lines with sorted field names, as the log shows it. -/
def indented (document : Json) : String := String.ofList (indentedChars 0 document.sorted)

end AddonUpkeep.Json
