import AddonUpkeep.Text.Pieces
import AddonUpkeep.Yaml.Timestamp

/-!
# Tags

A tag tells what kind of value a node denotes.  A plain scalar without a tag gets the one whose form
it has: a truth value, a number, nothing, a timestamp; it is a text otherwise.
-/

namespace AddonUpkeep.Yaml

open AddonUpkeep.Text

/-- The kinds of values that a tag can name. -/
inductive Tag where
  | null
  | bool
  | int
  | float
  | binary
  | timestamp
  | orderedMap
  | pairs
  | set
  | str
  | seq
  | map
  | merge
  | value
  | unknown
  deriving DecidableEq, Repr

namespace Tag

/-- What the tags of this library start with. -/
def commonStart : List Char := "tag:yaml.org,2002:".toList

/-- The tags by the word that follows their common start. -/
def words : List (List Char × Tag) :=
  [("null".toList, null), ("bool".toList, bool), ("int".toList, int), ("float".toList, float),
    ("binary".toList, binary), ("timestamp".toList, timestamp), ("omap".toList, orderedMap),
    ("pairs".toList, pairs), ("set".toList, set), ("str".toList, str), ("seq".toList, seq),
    ("map".toList, map), ("merge".toList, merge), ("value".toList, value)]

/-- The tag of a text. -/
def ofText (text : List Char) : Tag :=
  match dropStart? commonStart text with
  | some word => (words.lookup word).getD unknown
  | none => unknown

/-! ## Tags by form -/

/-- The words for truth values. -/
def truthWords : List (List Char) :=
  ["yes".toList, "Yes".toList, "YES".toList, "no".toList, "No".toList, "NO".toList, "true".toList,
    "True".toList, "TRUE".toList, "false".toList, "False".toList, "FALSE".toList, "on".toList,
    "On".toList, "ON".toList, "off".toList, "Off".toList, "OFF".toList]

/-- The words for nothing. -/
def nullWords : List (List Char) :=
  ["~".toList, "null".toList, "Null".toList, "NULL".toList]

/-- The text behind a sign. -/
def dropSign : List Char → List Char
  | '-' :: rest => rest
  | '+' :: rest => rest
  | text => text

/-- A digit, or an underscore between digits. -/
def isDigitMark (c : Char) : Bool := c.isDigit || c == '_'

/-- A count of minutes or seconds up to 59. -/
def isSixtieth : List Char → Bool
  | [a] => a.isDigit
  | [a, b] => decide ('0' ≤ a) && decide (a ≤ '5') && b.isDigit
  | _ => false

/-- A digit and then digits and underscores. -/
def isGrouped : List Char → Bool
  | c :: rest => c.isDigit && rest.all isDigitMark
  | [] => false

/-- Some characters, all of which satisfy a predicate. -/
def isRow (p : Char → Bool) (text : List Char) : Bool := !text.isEmpty && text.all p

/-- A number to the base sixty: at least two groups with colons between them. -/
def isSexagesimal (text : List Char) : Bool :=
  match pieces ':' text with
  | first :: second :: more => isGrouped first && (second :: more).all isSixtieth
  | _ => false

/-- The form of an integer. -/
def isIntegerForm (text : List Char) : Bool :=
  match dropSign text with
  | '0' :: 'b' :: digits => isRow (fun c ↦ c == '0' || c == '1' || c == '_') digits
  | '0' :: 'x' :: digits => isRow (fun c ↦ isHexDigit c || c == '_') digits
  | '0' :: digits => digits.all fun c ↦ (decide ('0' ≤ c) && decide (c ≤ '7')) || c == '_'
  | unsigned => isGrouped unsigned || isSexagesimal unsigned

/-- Nothing, or an exponent with a sign. -/
def isExponentForm : List Char → Bool
  | [] => true
  | [_] => false
  | e :: sign :: digits =>
    (e == 'e' || e == 'E') && (sign == '-' || sign == '+') && isRow Char.isDigit digits

/-- What may follow the point of a number: digits and an exponent. -/
def isFractionForm (text : List Char) : Bool := isExponentForm (text.dropWhile isDigitMark)

/-- The form of a floating point number: digits with a point, a count to the base sixty with a
point, an infinity or a not-a-number. -/
def isFloatForm (text : List Char) : Bool :=
  let unsigned := dropSign text
  let whole := unsigned.takeWhile (· != '.')
  match unsigned.dropWhile (· != '.') with
  | _ :: fraction =>
    if whole.isEmpty then
      ["inf".toList, "Inf".toList, "INF".toList].contains fraction ||
        (text == unsigned && (["nan".toList, "NaN".toList, "NAN".toList].contains fraction ||
          (fraction.head?.any Char.isDigit && isFractionForm fraction)))
    else (isGrouped whole && isFractionForm fraction) ||
      (isSexagesimal whole && fraction.all isDigitMark)
  | [] => false

/-- The tag that a plain scalar has by its form. -/
def ofForm (text : List Char) : Tag :=
  if text.isEmpty then null
  else
    let form := formOf text
    if truthWords.contains form then bool
    else if isFloatForm form then float
    else if isIntegerForm form then int
    else if form = ['<', '<'] then merge
    else if nullWords.contains form then null
    else if (TimestampText.parse? form).any (·.isFull) then timestamp
    else if form = ['='] then value
    else str

end Tag

end AddonUpkeep.Yaml
