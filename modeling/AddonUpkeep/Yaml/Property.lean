import AddonUpkeep.Number.Reading
import AddonUpkeep.Yaml.Cursor
import AddonUpkeep.Yaml.Token

/-!
# Anchors, tags and directives

The words that are attached to a node, and the lines in front of a document.  A tag is a handle,
which stands for the start of the tag, and a suffix; the suffix is written like a URI, with bytes in
UTF-8 behind percent signs.
-/

namespace AddonUpkeep.Yaml

open AddonUpkeep.Text AddonUpkeep.Number

/-- A character that may follow an anchor. -/
def endsAnchor (next : Option Char) : Bool :=
  isGapNext next || next.any fun c ↦ ['?', ':', ',', ']', '}', '%', '@', Char.ofNat 0x60].contains c

/-- The name of an anchor and the place behind it.  The cursor is at the sign in front. -/
def readAnchor (cursor : Cursor) : Except Refusal (List Char × Cursor) :=
  let (name, cursor) := cursor.advance.span isNameChar
  if name.isEmpty || !endsAnchor cursor.peek then .error (.malformed .anchor)
  else .ok (name, cursor)

/-! ## Tags -/

/-- A character that may stand in a tag. -/
def isUriChar (c : Char) : Bool :=
  c.isAlphanum || "-;/?:@&=+$,_.!~*'()[]%".toList.contains c

/-- The bytes behind percent signs in front of the text. -/
def escapedBytes : List Char → Option (List UInt8)
  | '%' :: a :: b :: rest =>
    if isHexDigit a && isHexDigit b then
      (escapedBytes rest).map (UInt8.ofNat (digitsValue 16 [a, b]) :: ·)
    else none
  | '%' :: _ => none
  | _ => some []

/-- The text of some bytes in UTF-8. -/
def utf8Text? (bytes : List UInt8) : Option (List Char) :=
  (String.fromUTF8? ⟨bytes.toArray⟩).map String.toList

/-- The characters of a tag from a place on, behind what is read already.  The fuel bounds the
number of characters. -/
def readUriFrom : Nat → List Char → Cursor → Except Refusal (List Char × Cursor)
  | 0, read, cursor => .ok (read, cursor)
  | fuel + 1, read, cursor =>
    match cursor.peek with
    | some '%' =>
      match escapedBytes cursor.rest with
      | none => .error (.malformed .tag)
      | some bytes => match utf8Text? bytes with
        | none => .error (.malformed .tag)
        | some text => readUriFrom fuel (read ++ text) (cursor.advanceBy (3 * bytes.length))
    | some c =>
      if isUriChar c then readUriFrom fuel (read ++ [c]) cursor.advance else .ok (read, cursor)
    | none => .ok (read, cursor)

/-- The characters of a tag and the place behind them. -/
def readUri (cursor : Cursor) : Except Refusal (List Char × Cursor) := do
  let (uri, after) ← readUriFrom (cursor.rest.length + 1) [] cursor
  if uri.isEmpty then .error (.malformed .tag) else return (uri, after)

/-- A handle, which stands between exclamation marks or is a single one, and the place behind it. -/
def readHandle (cursor : Cursor) : Except Refusal (List Char × Cursor) :=
  if cursor.peek ≠ some '!' then .error (.malformed .tag)
  else
    let inner := cursor.advance
    if inner.peek = some ' ' then .ok (['!'], inner)
    else
      let (name, behind) := inner.span isNameChar
      if behind.peek = some '!' then .ok ('!' :: name ++ ['!'], behind.advance)
      else .error (.malformed .tag)

/-- The parts of a tag with the place behind them.  The cursor is at the exclamation mark. -/
def readTagParts (cursor : Cursor) :
    Except Refusal (Option (List Char) × List Char × Cursor) :=
  match cursor.peekSecond with
  | some '<' => do
    let (suffix, cursor) ← readUri (cursor.advanceBy 2)
    if cursor.peek = some '>' then return (none, suffix, cursor.advance)
    else .error (.malformed .tag)
  | next =>
    if isGapNext next then .ok (none, ['!'], cursor.advance)
    else do
      let word := cursor.advance.rest.takeWhile fun c ↦ !endsWord (some c)
      let (handle, cursor) ←
        if word.contains '!' then readHandle cursor else pure (['!'], cursor.advance)
      let (suffix, cursor) ← readUri cursor
      return (some handle, suffix, cursor)

/-- A tag and the place behind it. -/
def readTag (cursor : Cursor) : Except Refusal (Token × Cursor) := do
  let (handle, suffix, cursor) ← readTagParts cursor
  if endsWord cursor.peek then return (.tag handle suffix, cursor)
  else .error (.malformed .tag)

/-! ## Directives -/

/-- A number of a version and the place behind it. -/
def readVersionNumber (cursor : Cursor) : Except Refusal (Int × Cursor) :=
  let (digits, cursor) := cursor.span Char.isDigit
  match readInteger 10 digits with
  | .ok number => .ok (number, cursor)
  | .error .malformed => .error (.malformed .directive)
  | .error (.tooLong count) => .error (.value (.longInteger count))

/-- What a directive of a name declares, and the place behind it. -/
def readDeclared (name : List Char) (cursor : Cursor) : Except Refusal (Directive × Cursor) :=
  if name = ['Y', 'A', 'M', 'L'] then do
    let (major, cursor) ← readVersionNumber (cursor.skipWhile (· == ' '))
    if cursor.peek ≠ some '.' then .error (.malformed .directive)
    else
      let (minor, cursor) ← readVersionNumber cursor.advance
      if endsWord cursor.peek then return (.version major minor, cursor)
      else .error (.malformed .directive)
  else if name = ['T', 'A', 'G'] then do
    let (handle, cursor) ← readHandle (cursor.skipWhile (· == ' '))
    if cursor.peek ≠ some ' ' then .error (.malformed .directive)
    else
      let (start, cursor) ← readUri (cursor.skipWhile (· == ' '))
      if endsWord cursor.peek then return (.tagHandle handle start, cursor)
      else .error (.malformed .directive)
  else .ok (.unknown, cursor.skipWhile (!isBreak ·))

/-- A directive and the place behind its line.  The cursor is at the percent sign. -/
def readDirective (cursor : Cursor) : Except Refusal (Token × Cursor) := do
  let (name, cursor) := cursor.advance.span isNameChar
  if name.isEmpty || !endsWord cursor.peek then .error (.malformed .directive)
  else
    let (declared, cursor) ← readDeclared name cursor
    return (.directive declared, ← cursor.skipLineRest .directive)

end AddonUpkeep.Yaml
