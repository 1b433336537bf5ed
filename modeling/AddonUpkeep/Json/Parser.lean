import AddonUpkeep.Json.Basic
import AddonUpkeep.Number.Reading
import AddonUpkeep.Text.Quoted

/-!
# Reading documents

The reader accepts documents with the additional number words for infinity and not-a-number.  A
later field of a name replaces an earlier one.  A refusal names the problem and its place, which is
the number of characters before it.
-/

namespace AddonUpkeep.Json

open AddonUpkeep.Text AddonUpkeep.Number

/-- What is wrong with a text that is no document. -/
inductive Problem where
  | byteOrderMark
  | expectedValue
  | expectedName
  | expectedColon
  | expectedComma
  | unterminatedText
  | controlCharacter
  | badEscape
  | badUnicodeEscape
  | extraData
  deriving DecidableEq, Repr

/-- The wording of a problem. -/
def Problem.wording : Problem → String
  | byteOrderMark => "Unexpected UTF-8 BOM (decode using utf-8-sig)"
  | expectedValue => "Expecting value"
  | expectedName => "Expecting property name enclosed in double quotes"
  | expectedColon => "Expecting ':' delimiter"
  | expectedComma => "Expecting ',' delimiter"
  | unterminatedText => "Unterminated string starting at"
  | controlCharacter => "Invalid control character at"
  | badEscape => "Invalid \\escape"
  | badUnicodeEscape => "Invalid \\uXXXX escape"
  | extraData => "Extra data"

/-- Why a text was not read: it is malformed at a place, it holds an integer with too many digits,
or its objects (or arrays, when the flag is not set) are nested too deeply. -/
inductive Refusal where
  | malformed (problem : Problem) (place : Nat)
  | longInteger (digits : Nat)
  | tooDeep (inObject : Bool)
  deriving DecidableEq, Repr

/-- The line of the place behind the given text, counted from one. -/
def lineAfter (before : List Char) : Nat := before.count '\n' + 1

/-- The column of the place behind the given text, counted from one. -/
def columnAfter (before : List Char) : Nat :=
  (before.reverse.takeWhile (· != '\n')).length + 1

/-- The message of a malformed text: problem, line, column and the number of characters before. -/
def malformedMessage (text : List Char) (problem : Problem) (place : Nat) : String :=
  let before := text.take place
  let row := lineAfter before
  let column := columnAfter before
  s!"{problem.wording}: line {row} column {column} (char {place})"

/-- A refusal while reading.  A place is told by the number of characters that are left. -/
inductive Failure where
  | malformed (problem : Problem) (left : Nat)
  | longInteger (digits : Nat)
  | tooDeep (inObject : Bool)

/-- The refusal of a whole text of the given length. -/
def Failure.refusal (length : Nat) : Failure → Refusal
  | malformed problem left => .malformed problem (length - left)
  | longInteger digits => .longInteger digits
  | tooDeep inObject => .tooDeep inObject

/-- Refuse at a place given by the text that is left. -/
def refuse {α : Type} (problem : Problem) (left : List Char) : Except Failure α :=
  .error (.malformed problem left.length)

/-- White space between the parts of a document. -/
def isSpace (c : Char) : Bool := c == ' ' || c == '\t' || c == '\n' || c == '\r'

/-- The text without the white space in front. -/
def skipSpace (text : List Char) : List Char := text.dropWhile isSpace

/-- The character that a letter behind a backslash stands for. -/
def escapedBy? (c : Char) : Option Char :=
  if c = quotationMark then some quotationMark
  else if c = '\\' then some '\\'
  else if c = '/' then some '/'
  else if c = 'b' then some '\x08'
  else if c = 'f' then some '\x0C'
  else if c = 'n' then some '\n'
  else if c = 'r' then some '\r'
  else if c = 't' then some '\t'
  else none

/-- The value of hexadecimal digits; none when one of them is no such digit. -/
def hexValue? (digits : List Char) : Option Nat :=
  if digits.all isHexDigit then some (digitsValue 16 digits) else none

/-- The first unit of a pair. -/
def isHighSurrogate (unit : Nat) : Bool := decide (0xD800 ≤ unit) && decide (unit ≤ 0xDBFF)

/-- The second unit of a pair. -/
def isLowSurrogate (unit : Nat) : Bool := decide (0xDC00 ≤ unit) && decide (unit ≤ 0xDFFF)

/-- The character of a unit that stands alone; a lone surrogate is replaced. -/
def charOfUnit (unit : Nat) : Char :=
  if isHighSurrogate unit || isLowSurrogate unit then '\uFFFD' else Char.ofNat unit

/-- The character of a pair of units. -/
def charOfPair (high low : Nat) : Char :=
  Char.ofNat (0x10000 + (high - 0xD800) * 0x400 + (low - 0xDC00))

/-- The character that four hexadecimal digits stand for, or eight in two groups when the units form
a pair, with the number of characters used.  The text starts behind the `u`. -/
def readUnit : List Char → Except Failure (Char × Nat)
  | a :: b :: c :: d :: next :: rest =>
    match hexValue? [a, b, c, d] with
    | none => .error (.malformed .badUnicodeEscape (rest.length + 6))
    | some unit =>
      match next, rest with
      | '\\', 'u' :: e :: f :: g :: h :: _ :: after =>
        if isHighSurrogate unit then
          match hexValue? [e, f, g, h] with
          | none => .error (.malformed .badUnicodeEscape (after.length + 6))
          | some low =>
            if isLowSurrogate low then .ok (charOfPair unit low, 10) else .ok (charOfUnit unit, 4)
        else .ok (charOfUnit unit, 4)
      | _, _ => .ok (charOfUnit unit, 4)
  | text => .error (.malformed .badUnicodeEscape (text.length + 1))

/-- The character that an escape stands for and the number of characters used.  The text starts
behind the backslash, and `opening` is the text that was left at the opening mark. -/
def readEscape (opening : List Char) : List Char → Except Failure (Char × Nat)
  | [] => refuse .unterminatedText opening
  | c :: rest =>
    if c = 'u' then (readUnit rest).map fun (meant, used) ↦ (meant, used + 1)
    else match escapedBy? c with
      | some meant => .ok (meant, 1)
      | none => .error (.malformed .badEscape (rest.length + 2))

/-- The body of a text up to its closing mark, after skipping some characters and behind the text
that is read already, which is given backwards. -/
def readText (opening : List Char) :
    Nat → List Char → List Char → Except Failure (String × List Char)
  | _, _, [] => refuse .unterminatedText opening
  | skip + 1, read, _ :: rest => readText opening skip read rest
  | 0, read, c :: rest =>
    if c = quotationMark then .ok (String.ofList read.reverse, rest)
    else if c = '\\' then
      match readEscape opening rest with
      | .error failure => .error failure
      | .ok (meant, used) => readText opening used (meant :: read) rest
    else if c.toNat < 0x20 then refuse .controlCharacter (c :: rest)
    else readText opening 0 (c :: read) rest

/-- The digits of a fraction behind its point, if there are any. -/
def fractionDigits : List Char → List Char × List Char
  | '.' :: c :: rest =>
    if isAsciiDigit c then (c :: rest.takeWhile isAsciiDigit, rest.dropWhile isAsciiDigit)
    else ([], '.' :: c :: rest)
  | text => ([], text)

/-- The exponent behind a number, if there is a whole one. -/
def exponentDigits : List Char → Option Int × List Char
  | mark :: rest =>
    let (negative, digits) := takeSign rest
    let shown := digits.takeWhile isAsciiDigit
    if (mark = 'e' ∨ mark = 'E') ∧ !shown.isEmpty then
      let value : Int := digitsValue 10 shown
      (some (if negative then -value else value), digits.dropWhile isAsciiDigit)
    else (none, mark :: rest)
  | [] => (none, [])

/-- The digits of the whole part: a zero alone or digits that do not start with a zero. -/
def wholeDigits : List Char → List Char × List Char
  | '0' :: rest => (['0'], rest)
  | text => (text.takeWhile isAsciiDigit, text.dropWhile isAsciiDigit)

/-- A number, which is an integer when it has neither fraction nor exponent. -/
def readNumber (text : List Char) : Except Failure (Json × List Char) :=
  let (negative, unsigned) := match text with
    | '-' :: rest => (true, rest)
    | _ => (false, text)
  let (whole, rest) := wholeDigits unsigned
  if whole.isEmpty then refuse .expectedValue text
  else
    let (fraction, rest) := fractionDigits rest
    let (exponent, rest) := exponentDigits rest
    if fraction.isEmpty && exponent.isNone then
      if digitLimit < whole.length then .error (.longInteger whole.length)
      else
        let value : Int := digitsValue 10 whole
        .ok (int (if negative then -value else value), rest)
    else
      let digits := digitsValue 10 (whole ++ fraction)
      .ok (float (.ofDecimal negative digits (exponent.getD 0 - fraction.length)), rest)

/-- The words that stand for a document. -/
def wordValues : List (List Char × Json) :=
  [(['n', 'u', 'l', 'l'], null), (['t', 'r', 'u', 'e'], bool true),
    (['f', 'a', 'l', 's', 'e'], bool false), (['N', 'a', 'N'], float .nan),
    (['I', 'n', 'f', 'i', 'n', 'i', 't', 'y'], float (.infinite false)),
    (['-', 'I', 'n', 'f', 'i', 'n', 'i', 't', 'y'], float (.infinite true))]

/-- A word or a number. -/
def readScalar (text : List Char) : Except Failure (Json × List Char) :=
  match wordValues.findSome? fun entry ↦ (dropWord? entry.1 text).map (entry.2, ·) with
  | some found => .ok found
  | none => readNumber text
where
  /-- What follows a word in front of the text. -/
  dropWord? : List Char → List Char → Option (List Char)
    | [], text => some text
    | _ :: _, [] => none
    | a :: word, b :: text => if a = b then dropWord? word text else none

/-- The greatest nesting of arrays and objects that is read. -/
def nestingLimit : Nat := 975

mutual

/-- A document, inside the given number of arrays and objects.  The fuel bounds the number of
steps; every step reads a character. -/
def readValue (fuel depth : Nat) (text : List Char) : Except Failure (Json × List Char) :=
  match fuel with
  | 0 => refuse .expectedValue text
  | fuel + 1 => match text with
    | [] => refuse .expectedValue []
    | '{' :: rest =>
      if nestingLimit < depth then .error (.tooDeep true)
      else match skipSpace rest with
        | '}' :: rest => .ok (obj [], rest)
        | rest => readFields fuel (depth + 1) [] rest
    | '[' :: rest =>
      if nestingLimit < depth then .error (.tooDeep false)
      else match skipSpace rest with
        | ']' :: rest => .ok (arr [], rest)
        | rest => readItems fuel (depth + 1) [] rest
    | c :: rest =>
      if c = quotationMark then
        (readText (c :: rest) 0 [] rest).map fun (text, rest) ↦ (str text, rest)
      else readScalar (c :: rest)

/-- The items of an array from an item on.  The items already read are given backwards. -/
def readItems (fuel depth : Nat) (read : List Json) (text : List Char) :
    Except Failure (Json × List Char) :=
  match fuel with
  | 0 => refuse .expectedValue text
  | fuel + 1 => do
    let (item, rest) ← readValue fuel depth text
    match skipSpace rest with
    | ']' :: rest => .ok (arr (item :: read).reverse, rest)
    | ',' :: rest => readItems fuel depth (item :: read) (skipSpace rest)
    | rest => refuse .expectedComma rest

/-- The fields of an object from a name on. -/
def readFields (fuel depth : Nat) (read : List (String × Json)) (text : List Char) :
    Except Failure (Json × List Char) :=
  match fuel with
  | 0 => refuse .expectedName text
  | fuel + 1 => match text with
    | [] => refuse .expectedName []
    | c :: rest =>
      if c = quotationMark then do
        let (name, rest) ← readText (c :: rest) 0 [] rest
        match skipSpace rest with
        | ':' :: rest =>
          let (value, rest) ← readValue fuel depth (skipSpace rest)
          let read := Table.put read name value
          match skipSpace rest with
          | '}' :: rest => .ok (obj read, rest)
          | ',' :: rest => readFields fuel depth read (skipSpace rest)
          | rest => refuse .expectedComma rest
        | rest => refuse .expectedColon rest
      else refuse .expectedName (c :: rest)

end

/-- Read a document that is the whole text, apart from white space around it. -/
def readChars (text : List Char) : Except Refusal Json :=
  let outcome : Except Failure Json :=
    if text.head? = some '\uFEFF' then refuse .byteOrderMark text
    else do
      let (document, rest) ← readValue (2 * text.length + 2) 0 (skipSpace text)
      match skipSpace rest with
      | [] => .ok document
      | rest => refuse .extraData rest
  outcome.mapError (·.refusal text.length)

/-- Read a document that is the whole text, apart from white space around it. -/
def parse (text : String) : Except Refusal Json := readChars text.toList

end AddonUpkeep.Json
