import AddonUpkeep.Number.Reading
import AddonUpkeep.Text.Base64
import AddonUpkeep.Text.Lowercase
import AddonUpkeep.Yaml.Tag

/-!
# Values of scalars

What the text of a scalar denotes under its tag.  A tag can be given to a text of any form, so every
kind of value has texts that are refused.
-/

namespace AddonUpkeep.Yaml

open AddonUpkeep.Text AddonUpkeep.Number

/-- The text without its underscores. -/
def dropUnderscores (text : List Char) : List Char := text.filter (· != '_')

/-- The sign in front of a number and the rest.  There must be a character. -/
def splitSign : List Char → Except Fault (Bool × List Char)
  | [] => .error (.unforeseen .missingItem)
  | '-' :: rest => .ok (true, rest)
  | '+' :: rest => .ok (false, rest)
  | text => .ok (false, text)

/-- The integer that digits of a base denote. -/
def integerOf (base : Nat) (text : List Char) : Except Fault Int :=
  match readInteger base text with
  | .ok number => .ok number
  | .error .malformed => .error (.value (.integer base (String.ofList text)))
  | .error (.tooLong digits) => .error (.longInteger digits)

/-- The number that groups to the base sixty denote. -/
def sexagesimal (groups : List Int) : Int := groups.foldl (fun value group ↦ value * 60 + group) 0

/-- The number without its sign: in a base that its start tells, or in groups to the base sixty. -/
def magnitude (text : List Char) : Except Fault Int :=
  match text with
  | [] => .error (.unforeseen .missingItem)
  | ['0'] => .ok 0
  | '0' :: 'b' :: digits => integerOf 2 digits
  | '0' :: 'x' :: digits => integerOf 16 digits
  | '0' :: _ => integerOf 8 text
  | _ =>
    if text.contains ':' then (pieces ':' text).mapM (integerOf 10) |>.map sexagesimal
    else integerOf 10 text

/-- The integer of a text. -/
def integerValue (text : List Char) : Except Fault Int := do
  let (isNegative, unsigned) ← splitSign (dropUnderscores text)
  let value ← magnitude unsigned
  return if isNegative then -value else value

/-- The floating point number of a text. -/
def floatOf (text : List Char) : Except Fault Binary64 :=
  match readFloat? text with
  | some value => .ok value
  | none => .error (.value (.float (String.ofList text)))

/-- The sum of groups to the base sixty, the least one first. -/
def sexagesimalSum (sum : Binary64) (weight : Int) : List Binary64 → Except Fault Binary64
  | [] => .ok sum
  | group :: more =>
    match Binary64.ofInt weight with
    | .infinite _ => .error (.unforeseen .overflow)
    | factor => sexagesimalSum (sum.add (group.mul factor)) (weight * 60) more

/-- The word for a not-a-number. -/
def nanWord : List Char := ['.', 'n', 'a', 'n']

/-- Whether a text is the word for a not-a-number, with any sign. -/
def isNanWord (text : List Char) : Bool :=
  match splitSign (lowerChars (dropUnderscores text)) with
  | .ok (_, word) => word == nanWord
  | .error _ => false

/-- The floating point number of a text, with infinities and groups to the base sixty. -/
def floatValue (text : List Char) : Except Fault Binary64 := do
  let (isNegative, unsigned) ← splitSign (lowerChars (dropUnderscores text))
  let signed (value : Binary64) := if isNegative then value.negate else value
  if unsigned = ['.', 'i', 'n', 'f'] then return signed (.infinite false)
  else if unsigned = nanWord then return .nan
  else if unsigned.contains ':' then
    let groups ← (pieces ':' unsigned).mapM floatOf
    return signed (← sexagesimalSum (.ofInt 0) 1 groups.reverse)
  else return signed (← floatOf unsigned)

/-- The words for truth values with what they mean. -/
def truthValues : List (List Char × Bool) :=
  [("yes".toList, true), ("no".toList, false), ("true".toList, true), ("false".toList, false),
    ("on".toList, true), ("off".toList, false)]

/-- The truth value of a text. -/
def truthValue (text : List Char) : Except Fault Bool :=
  match truthValues.lookup (lowerChars text) with
  | some value => .ok value
  | none => .error (.unforeseen .missingKey)

/-- The date or moment of a text. -/
def timestampValue (text : List Char) : Except Fault Setting :=
  match TimestampText.parse? (formOf text) with
  | none => .error (.unforeseen .wrongShape)
  | some stamp => match stamp.value with
    | .ok (.inl date) => .ok (.date date)
    | .ok (.inr moment) => .ok (.moment moment)
    | .error problem => .error (.value (.calendar problem))

/-- The bytes of a text. -/
def binaryValue (text : List Char) : Except Refusal (List UInt8) :=
  match base64? text with
  | some data =>
    if text.all fun c ↦ decide (c.toNat < 0x80) then .ok data else .error (.malformed .content)
  | none => .error (.malformed .content)

/-- The value of a text under a tag of scalars; none under other tags. -/
def scalarValue? (tag : Tag) (text : List Char) : Option (Except Refusal Setting) :=
  match tag with
  | .null => some (.ok .null)
  | .bool => some (((truthValue text).map Setting.bool).mapError .value)
  | .int => some (((integerValue text).map Setting.int).mapError .value)
  | .float => some (((floatValue text).map Setting.float).mapError .value)
  | .binary => some ((binaryValue text).map Setting.bytes)
  | .timestamp => some ((timestampValue text).mapError .value)
  | .str => some (.ok (.str (String.ofList text)))
  | _ => none

end AddonUpkeep.Yaml
