import AddonUpkeep.Text.Quoted
import AddonUpkeep.Yaml.Cursor

/-!
# Scalars of YAML

The text of a scalar in each of its styles: plain, between quotes, and as a block of lines.  A break
inside a scalar is folded: a single one becomes a space, and of several the first is dropped.
-/

namespace AddonUpkeep.Yaml

open AddonUpkeep.Text AddonUpkeep.Number

/-- Characters that were folded together from a break and the empty lines behind it. -/
def foldBreaks (first : Char) (breaks : List Char) : List Char :=
  if first ≠ '\n' then first :: breaks else if breaks.isEmpty then [' '] else breaks

/-! ## Plain scalars -/

/-- Characters that end a plain scalar inside brackets. -/
def isFlowSign (c : Char) : Bool :=
  c == ',' || c == '[' || c == ']' || c == '{' || c == '}'

/-- A plain scalar cannot go on with a character, given the one behind it. -/
def endsPlain (inFlow : Bool) (c : Char) (next : Option Char) : Bool :=
  isGapNext (some c) ||
    (c == ':' && (isGapNext next || (inFlow && next.any isFlowSign))) ||
    (inFlow && (isFlowSign c || c == '?'))

/-- The part of a plain scalar up to the next gap. -/
def plainPart (inFlow : Bool) : List Char → List Char
  | [] => []
  | c :: rest => if endsPlain inFlow c rest.head? then [] else c :: plainPart inFlow rest

/-- The empty lines behind a break of a plain scalar.  The bound of a document ends the scalar. -/
def plainBreaks (atStart : Bool) (breaks : List Char) (cursor : Cursor) :
    List Char → Option (List Char) × Cursor
  | [] => (some breaks.reverse, cursor)
  | c :: rest =>
    if atStart && startsBound (c :: rest) then (none, cursor)
    else if c = ' ' then plainBreaks false breaks cursor.advance rest
    else if isBreak c then plainBreaks true (lineBreak c :: breaks) cursor.advance rest
    else (some breaks.reverse, cursor)

/-- The gap inside a plain scalar as it counts, and whether it has a break. -/
def plainGap (cursor : Cursor) : List Char × Bool × Cursor :=
  let (spaces, cursor) := cursor.span (· == ' ')
  match cursor.rest with
  | c :: rest =>
    if isBreak c then
      match plainBreaks true [] cursor.advance rest with
      | (some breaks, cursor) => (foldBreaks (lineBreak c) breaks, true, cursor)
      | (none, cursor) => ([], true, cursor)
    else (spaces, false, cursor)
  | [] => (spaces, false, cursor)

/-- A plain scalar from a part of it on, behind a gap.  The fuel bounds the number of parts. -/
def readPlainParts (inFlow : Bool) (indent : Nat) :
    Nat → List Char → List Char → Bool → Cursor → List Char × Bool × Cursor
  | 0, read, _, broken, cursor => (read, broken, cursor)
  | fuel + 1, read, gap, broken, cursor =>
    let part := plainPart inFlow cursor.rest
    if part.isEmpty || cursor.peek == some '#' then (read, broken, cursor)
    else
      let read := read ++ gap ++ part
      let (gap, broken, cursor) := plainGap (cursor.advanceBy part.length)
      if gap.isEmpty || (!inFlow && decide (cursor.column < indent)) then (read, broken, cursor)
      else readPlainParts inFlow indent fuel read gap broken cursor

/-- A plain scalar, whether it ends behind a break, and the place behind it.  Outside of brackets
its lines have at least the given indentation. -/
def readPlain (inFlow : Bool) (indent : Nat) (cursor : Cursor) : List Char × Bool × Cursor :=
  readPlainParts inFlow indent cursor.rest.length [] [] false cursor

/-! ## Scalars between quotes -/

/-- The character that a letter behind a backslash stands for. -/
def escapedBy? (c : Char) : Option Char :=
  if c = quotationMark then some quotationMark
  else match c with
    | '0' => some '\x00'
    | 'a' => some '\x07'
    | 'b' => some '\x08'
    | 't' | '\t' => some '\t'
    | 'n' => some '\n'
    | 'v' => some '\x0B'
    | 'f' => some '\x0C'
    | 'r' => some '\r'
    | 'e' => some '\x1B'
    | ' ' => some ' '
    | '\\' => some '\\'
    | '/' => some '/'
    | 'N' => some '\u0085'
    | '_' => some '\u00A0'
    | 'L' => some '\u2028'
    | 'P' => some '\u2029'
    | _ => none

/-- The number of hexadecimal digits behind a letter that stands for a code point. -/
def codeLength? (c : Char) : Option Nat :=
  match c with
  | 'x' => some 2
  | 'u' => some 4
  | 'U' => some 8
  | _ => none

/-- The character of a code point.  A surrogate has none and is replaced. -/
def charOfCode (code : Nat) : Except Refusal Char :=
  if 0x7FFFFFFF < code then .error (.value (.unforeseen .overflow))
  else if 0x10FFFF < code then .error (.value (.value .codePoint))
  else .ok (if 0xD800 ≤ code ∧ code ≤ 0xDFFF then '\uFFFD' else Char.ofNat code)

/-- The empty lines and the indentation behind a break of a scalar between quotes. -/
def quotedBreaks (atStart : Bool) (breaks : List Char) (cursor : Cursor) :
    List Char → Except Refusal (List Char × Cursor)
  | [] => .ok (breaks.reverse, cursor)
  | c :: rest =>
    if atStart && startsBound (c :: rest) then .error (.malformed .scalar)
    else if isWhite c then quotedBreaks false breaks cursor.advance rest
    else if isBreak c then quotedBreaks true (lineBreak c :: breaks) cursor.advance rest
    else .ok (breaks.reverse, cursor)

/-- What an escape stands for, and the place behind it.  The cursor is behind the backslash. -/
def readEscape (cursor : Cursor) : Except Refusal (List Char × Cursor) :=
  match cursor.rest with
  | [] => .error (.malformed .scalar)
  | c :: rest =>
    match escapedBy? c, codeLength? c with
    | some meant, _ => .ok ([meant], cursor.advance)
    | none, some length =>
      let digits := rest.take length
      if digits.length = length ∧ digits.all isHexDigit then do
        return ([← charOfCode (digitsValue 16 digits)], cursor.advanceBy (length + 1))
      else .error (.malformed .scalar)
    | none, none =>
      if isBreak c then quotedBreaks true [] cursor.advance rest else .error (.malformed .scalar)

/-- A gap inside a scalar between quotes as it counts. -/
def quotedGap (cursor : Cursor) : Except Refusal (List Char × Cursor) :=
  let (white, cursor) := cursor.span isWhite
  match cursor.rest with
  | [] => .error (.malformed .scalar)
  | c :: rest =>
    if isBreak c then do
      let (breaks, cursor) ← quotedBreaks true [] cursor.advance rest
      return (foldBreaks (lineBreak c) breaks, cursor)
    else .ok (white, cursor)

/-- A scalar between quotes up to the closing one, behind what is read already, which is given
backwards.  The fuel bounds the number of characters. -/
def readQuotedBody (isDouble : Bool) :
    Nat → List Char → Cursor → Except Refusal (List Char × Cursor)
  | 0, _, _ => .error (.malformed .scalar)
  | fuel + 1, read, cursor =>
    match cursor.rest with
    | [] => .error (.malformed .scalar)
    | c :: rest =>
      if isGapNext (some c) then do
        let (gap, cursor) ← quotedGap cursor
        readQuotedBody isDouble fuel (gap.reverse ++ read) cursor
      else if isDouble && c == '\\' then do
        let (meant, cursor) ← readEscape cursor.advance
        readQuotedBody isDouble fuel (meant.reverse ++ read) cursor
      else if isDouble && c == quotationMark then .ok (read.reverse, cursor.advance)
      else if !isDouble && c == '\'' then
        if rest.head? = some '\'' then
          readQuotedBody isDouble fuel ('\'' :: read) (cursor.advanceBy 2)
        else .ok (read.reverse, cursor.advance)
      else readQuotedBody isDouble fuel (c :: read) cursor.advance

/-- A scalar between quotes and the place behind it.  The cursor is at the opening quote. -/
def readQuoted (isDouble : Bool) (cursor : Cursor) : Except Refusal (List Char × Cursor) :=
  readQuotedBody isDouble cursor.rest.length [] cursor.advance

/-! ## Scalars as blocks -/

/-- What becomes of the breaks at the end of a block. -/
inductive Chomping where
  | strip
  | clip
  | keep
  deriving DecidableEq, Repr

/-- The sign of a chomping. -/
def chompingOf? (c : Char) : Option Chomping :=
  if c = '-' then some .strip else if c = '+' then some .keep else none

/-- The signs behind the start of a block: a chomping, an indentation, or both in either order. -/
def readBlockSigns (cursor : Cursor) : Except Refusal (Chomping × Option Nat × Cursor) :=
  let digit? (c : Char) : Option Nat := if c.isDigit then some (c.toNat - '0'.toNat) else none
  let first := cursor.peek
  let second := cursor.peekSecond
  let (chomping, indent, length) := match first.bind chompingOf?, first.bind digit? with
    | some chomping, _ => match second.bind digit? with
      | some digit => (chomping, some digit, 2)
      | none => (chomping, none, 1)
    | none, some digit => match second.bind chompingOf? with
      | some chomping => (chomping, some digit, 2)
      | none => (.clip, some digit, 1)
    | none, none => (.clip, none, 0)
  let cursor := cursor.advanceBy length
  if indent = some 0 ∨ !endsWord cursor.peek then .error (.malformed .scalar)
  else .ok (chomping, indent, cursor)

/-- The empty lines in front of a block without a given indentation, with the widest line. -/
def leadingBreaks (breaks : List Char) (widest : Nat) (cursor : Cursor) :
    List Char → List Char × Nat × Cursor
  | [] => (breaks.reverse, widest, cursor)
  | c :: rest =>
    if c = ' ' then
      let cursor := cursor.advance
      leadingBreaks breaks (max widest cursor.column) cursor rest
    else if isBreak c then leadingBreaks (lineBreak c :: breaks) widest cursor.advance rest
    else (breaks.reverse, widest, cursor)

/-- The empty lines between the lines of a block, and the place behind the indentation of the next
line. -/
def blockBreaks (indent : Nat) (breaks : List Char) (cursor : Cursor) :
    List Char → List Char × Cursor
  | [] => (breaks.reverse, cursor)
  | c :: rest =>
    if c = ' ' ∧ cursor.column < indent then blockBreaks indent breaks cursor.advance rest
    else if isBreak c then blockBreaks indent (lineBreak c :: breaks) cursor.advance rest
    else (breaks.reverse, cursor)

/-- The lines of a block from a line on: their text, the last break and the empty lines behind it.
The fuel bounds the number of lines. -/
def readBlockLines (isFolded : Bool) (indent : Nat) :
    Nat → List Char → List Char → Cursor → List Char × List Char × List Char × Cursor
  | 0, read, breaks, cursor => (read, [], breaks, cursor)
  | fuel + 1, read, breaks, cursor =>
    if cursor.column ≠ indent ∨ cursor.rest.isEmpty then (read, [], breaks, cursor)
    else
      let startsWhite := cursor.peek.any isWhite
      let (line, cursor) := cursor.span (!isBreak ·)
      let read := read ++ breaks ++ line
      let last := cursor.peek.toList.map lineBreak
      let cursor := cursor.skipBreak
      let (breaks, cursor) := blockBreaks indent [] cursor cursor.rest
      if cursor.column ≠ indent ∨ cursor.rest.isEmpty then (read, last, breaks, cursor)
      else if isFolded && last == ['\n'] && !startsWhite && !cursor.peek.any isWhite then
        readBlockLines isFolded indent fuel (read ++ if breaks.isEmpty then [' '] else []) breaks
          cursor
      else readBlockLines isFolded indent fuel (read ++ last) breaks cursor

/-- The text of a block with the breaks at its end. -/
def chomp (chomping : Chomping) (text last breaks : List Char) : List Char :=
  match chomping with
  | .strip => text
  | .clip => text ++ last
  | .keep => text ++ last ++ breaks

/-- A scalar as a block and the place behind it.  The cursor is at the sign of the style. -/
def readBlock (isFolded : Bool) (minimum : Nat) (cursor : Cursor) :
    Except Refusal (List Char × Cursor) := do
  let (chomping, given, cursor) ← readBlockSigns cursor.advance
  let cursor ← cursor.skipLineRest .scalar
  let (indent, breaks, cursor) := match given with
    | some digit =>
      let indent := minimum + digit - 1
      let (breaks, cursor) := blockBreaks indent [] cursor cursor.rest
      (indent, breaks, cursor)
    | none =>
      let (breaks, widest, cursor) := leadingBreaks [] 0 cursor cursor.rest
      (max minimum widest, breaks, cursor)
  let (text, last, breaks, cursor) :=
    readBlockLines isFolded indent (cursor.rest.length + 1) [] breaks cursor
  return (chomp chomping text last breaks, cursor)

end AddonUpkeep.Yaml
