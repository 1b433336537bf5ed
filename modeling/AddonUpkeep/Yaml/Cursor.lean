import AddonUpkeep.Fault.Basic

/-!
# Places in a YAML text

A cursor is a place in a text: what is left of it and how far the place is from the start, in
characters, lines and columns.  Reading moves it forward.
-/

namespace AddonUpkeep.Yaml

/-- The part of the syntax that a text violates. -/
inductive Violation where
  | character
  | directive
  | indentation
  | key
  | anchor
  | tag
  | scalar
  | arrangement
  | document
  | content
  deriving DecidableEq, Repr

/-- Why a text is not read: it is no YAML, or a value in it is refused. -/
inductive Refusal where
  | malformed (violation : Violation)
  | value (fault : Fault)

/-- The end of a line: a line feed, a next line, or a line or paragraph separator. -/
def isBreak (c : Char) : Bool := c == '\n' || c == '\u0085' || c == '\u2028' || c == '\u2029'

/-- A space or a tabulator. -/
def isWhite (c : Char) : Bool := c == ' ' || c == '\t'

/-- Nothing, or the end of a line, is next. -/
def endsLine : Option Char → Bool
  | none => true
  | some c => isBreak c

/-- Nothing, a space or the end of a line is next. -/
def endsWord : Option Char → Bool
  | none => true
  | some c => c == ' ' || isBreak c

/-- Nothing, white space or the end of a line is next. -/
def isGapNext : Option Char → Bool
  | none => true
  | some c => isWhite c || isBreak c

/-- A letter or digit of ASCII, a dash or an underscore. -/
def isNameChar (c : Char) : Bool := c.isAlphanum || c == '-' || c == '_'

/-- The mark that a text can start with to tell its byte order.  It takes no column. -/
def byteOrderMark : Char := '\uFEFF'

/-- A break as it counts in a value: the separators stay, any other break is a line feed. -/
def lineBreak (c : Char) : Char := if c = '\u0085' then '\n' else c

/-- A place in a text. -/
structure Cursor where
  rest : List Char
  index : Nat := 0
  line : Nat := 0
  column : Nat := 0
  deriving Repr

namespace Cursor

/-- The next character. -/
def peek (cursor : Cursor) : Option Char := cursor.rest.head?

/-- The character behind the next one. -/
def peekSecond (cursor : Cursor) : Option Char := cursor.rest[1]?

/-- The place behind the next character. -/
def advance (cursor : Cursor) : Cursor :=
  match cursor.rest with
  | [] => cursor
  | c :: rest =>
    if isBreak c then ⟨rest, cursor.index + 1, cursor.line + 1, 0⟩
    else if c = byteOrderMark then { cursor with rest, index := cursor.index + 1 }
    else ⟨rest, cursor.index + 1, cursor.line, cursor.column + 1⟩

/-- The place behind a number of characters. -/
def advanceBy : Nat → Cursor → Cursor
  | 0, cursor => cursor
  | count + 1, cursor => advanceBy count cursor.advance

/-- The place behind the characters in front that satisfy a predicate. -/
def skipWhile (p : Char → Bool) (cursor : Cursor) : Cursor :=
  advanceBy (cursor.rest.takeWhile p).length cursor

/-- The characters in front that satisfy a predicate, and the place behind them. -/
def span (p : Char → Bool) (cursor : Cursor) : List Char × Cursor :=
  (cursor.rest.takeWhile p, cursor.skipWhile p)

/-- The place behind a break, if one is next. -/
def skipBreak (cursor : Cursor) : Cursor :=
  match cursor.peek with
  | some c => if isBreak c then cursor.advance else cursor
  | none => cursor

/-- The rest of a line holds only spaces and perhaps a comment; the place behind its break. -/
def skipLineRest (violation : Violation) (cursor : Cursor) : Except Refusal Cursor :=
  let cursor := cursor.skipWhile (· == ' ')
  let cursor := if cursor.peek = some '#' then cursor.skipWhile (!isBreak ·) else cursor
  if endsLine cursor.peek then .ok cursor.skipBreak else .error (.malformed violation)

end Cursor

/-- Three dashes or three points stand in front of a gap: the bound of a document, when this is the
start of a line. -/
def startsBound : List Char → Bool
  | '-' :: '-' :: '-' :: rest => isGapNext rest.head?
  | '.' :: '.' :: '.' :: rest => isGapNext rest.head?
  | _ => false

end AddonUpkeep.Yaml
