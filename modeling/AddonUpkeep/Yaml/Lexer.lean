import AddonUpkeep.Yaml.Property
import AddonUpkeep.Yaml.Scalar

/-!
# From a text to its tokens

Indentation opens and closes blocks.  A node on one line turns out to be a key only when a colon
follows it; until then its place among the tokens is remembered, and the tokens that announce the
key are put there once it is known.
-/

namespace AddonUpkeep.Yaml

open AddonUpkeep.Text

/-- A node that may turn out to be a key, with the number of tokens in front of it.  It has to be
one when it starts at the indentation of its block. -/
structure PossibleKey where
  position : Nat
  isRequired : Bool
  cursor : Cursor

/-- A text that is read up to a place, and the tokens so far, the last one first.  The indentations
of the open blocks are given from the inner to the outer ones, and the possible keys by the number
of brackets around them. -/
structure Lexer where
  cursor : Cursor
  brackets : Nat := 0
  indents : List Nat := []
  allowsKey : Bool := true
  keys : List (Nat × PossibleKey) := []
  tokens : List Token := []
  count : Nat := 0

namespace Lexer

/-- The start of a text. -/
def start (text : List Char) : Lexer := { cursor := ⟨text, 0, 0, 0⟩ }

/-- A place inside of brackets. -/
def inFlow (lexer : Lexer) : Bool := lexer.brackets != 0

/-- Add a token. -/
def emit (token : Token) (lexer : Lexer) : Lexer :=
  { lexer with tokens := token :: lexer.tokens, count := lexer.count + 1 }

/-- Move to a place. -/
def moveTo (cursor : Cursor) (lexer : Lexer) : Lexer := { lexer with cursor }

/-- Add a token of some characters. -/
def emitSign (token : Token) (length : Nat) (lexer : Lexer) : Lexer :=
  (lexer.emit token).moveTo (lexer.cursor.advanceBy length)

/-- Put tokens, given backwards, behind the first ones. -/
def insertAt (position : Nat) (new : List Token) (lexer : Lexer) : Lexer :=
  let behind := lexer.count - position
  { lexer with
    tokens := lexer.tokens.take behind ++ new ++ lexer.tokens.drop behind
    count := lexer.count + new.length }

/-- Allow or forbid a key next. -/
def allow (allowsKey : Bool) (lexer : Lexer) : Lexer := { lexer with allowsKey }

/-! ## Possible keys -/

/-- The greatest length of a key in characters. -/
def keyLimit : Nat := 1024

/-- A possible key that can be none any more: a key ends on its line. -/
def isStale (cursor : Cursor) (key : PossibleKey) : Bool :=
  key.cursor.line != cursor.line || decide (keyLimit < cursor.index - key.cursor.index)

/-- Forget the possible keys that can be none any more. -/
def dropStale (lexer : Lexer) : Except Refusal Lexer :=
  let (stale, fresh) := lexer.keys.partition fun entry ↦ isStale lexer.cursor entry.2
  if stale.any (·.2.isRequired) then .error (.malformed .key)
  else .ok { lexer with keys := fresh }

/-- Forget the possible key inside the current brackets. -/
def dropKey (lexer : Lexer) : Except Refusal Lexer :=
  let (dropped, kept) := lexer.keys.partition (·.1 == lexer.brackets)
  if dropped.any (·.2.isRequired) then .error (.malformed .key)
  else .ok { lexer with keys := kept }

/-- The node that starts here may be a key. -/
def saveKey (lexer : Lexer) : Except Refusal Lexer :=
  if lexer.allowsKey then do
    let isRequired := !lexer.inFlow && lexer.indents.head? == some lexer.cursor.column
    let lexer ← lexer.dropKey
    let key := ⟨lexer.count, isRequired, lexer.cursor⟩
    return { lexer with keys := (lexer.brackets, key) :: lexer.keys }
  else .ok lexer

/-! ## Blocks -/

/-- Close the inner blocks whose indentation satisfies a predicate.  Inside of brackets there is no
indentation. -/
def closeBlocks (p : Nat → Bool) (lexer : Lexer) : Lexer :=
  if lexer.inFlow then lexer
  else (lexer.indents.takeWhile p).foldl (fun lexer _ ↦ lexer.emit .blockEnd)
    { lexer with indents := lexer.indents.dropWhile p }

/-- A block at the column would be inside of the current one. -/
def opensBlock (column : Nat) (lexer : Lexer) : Bool :=
  !lexer.inFlow && lexer.indents.head?.all fun indent ↦ decide (indent < column)

/-- Open a block at a column, if it would be inside of the current one. -/
def openBlock (token : Token) (column : Nat) (lexer : Lexer) : Lexer :=
  if lexer.opensBlock column then
    { lexer with indents := column :: lexer.indents }.emit token
  else lexer

/-- The least indentation of what is inside the current block. -/
def innerIndent (lexer : Lexer) : Nat :=
  match lexer.indents with
  | [] => 0
  | indent :: _ => indent + 1

/-! ## Gaps -/

/-- The place behind spaces, comments and breaks, and whether there was a break. -/
def skipGap (inComment broken : Bool) (cursor : Cursor) : List Char → Bool × Cursor
  | [] => (broken, cursor)
  | c :: rest =>
    if isBreak c then skipGap false true cursor.advance rest
    else if inComment || c == '#' then skipGap true broken cursor.advance rest
    else if c = ' ' then skipGap false broken cursor.advance rest
    else (broken, cursor)

/-- Go to the next token.  Outside of brackets a key may stand on a new line. -/
def toToken (lexer : Lexer) : Lexer :=
  let cursor := lexer.cursor
  let cursor := if cursor.index == 0 && cursor.peek == some byteOrderMark then cursor.advance
    else cursor
  let (broken, cursor) := skipGap false false cursor cursor.rest
  { lexer with cursor, allowsKey := lexer.allowsKey || (broken && !lexer.inFlow) }

/-! ## Tokens -/

/-- End everything that is open, in front of a token at the start of a line or the end. -/
def closeAll (lexer : Lexer) : Except Refusal Lexer := do
  return (← (lexer.closeBlocks fun _ ↦ true).dropKey).allow false

/-- The end of the text. -/
def readEnd (lexer : Lexer) : Except Refusal Lexer := do
  return { (← lexer.closeAll) with keys := [] }.emit .streamEnd

/-- The bound of a document. -/
def readBound (token : Token) (lexer : Lexer) : Except Refusal Lexer := do
  return (← lexer.closeAll).emitSign token 3

/-- An opening bracket, which may start a key. -/
def readOpening (token : Token) (lexer : Lexer) : Except Refusal Lexer := do
  let lexer ← lexer.saveKey
  return ({ lexer with brackets := lexer.brackets + 1 }.allow true).emitSign token 1

/-- A closing bracket. -/
def readClosing (token : Token) (lexer : Lexer) : Except Refusal Lexer := do
  let lexer ← lexer.dropKey
  return ({ lexer with brackets := lexer.brackets - 1 }.allow false).emitSign token 1

/-- A comma between entries. -/
def readFlowEntry (lexer : Lexer) : Except Refusal Lexer := do
  return (← (lexer.allow true).dropKey).emitSign .flowEntry 1

/-- A sign of a block where a key could stand, which opens the block when it is the first. -/
def readBlockSign (opening sign : Token) (violation : Violation) (allowsKey : Bool)
    (lexer : Lexer) : Except Refusal Lexer :=
  if !lexer.inFlow && !lexer.allowsKey then .error (.malformed violation)
  else do
    let lexer := lexer.openBlock opening lexer.cursor.column
    return (← (lexer.allow allowsKey).dropKey).emitSign sign 1

/-- A colon.  It makes a key of the possible key inside the current brackets, if there is one. -/
def readValueSign (lexer : Lexer) : Except Refusal Lexer :=
  match lexer.keys.find? (·.1 == lexer.brackets) with
  | none =>
    lexer.readBlockSign .blockMappingStart .value .key (!lexer.inFlow)
  | some (_, key) =>
    let lexer := { lexer with keys := lexer.keys.filter (·.1 != lexer.brackets) }
    let column := key.cursor.column
    let lexer := if lexer.opensBlock column then
        { lexer with indents := column :: lexer.indents }.insertAt key.position
          [.key, .blockMappingStart]
      else lexer.insertAt key.position [.key]
    .ok ((lexer.allow false).emitSign .value 1)

/-- A token that may start a key. -/
def readNode (read : Cursor → Except Refusal (Token × Cursor)) (lexer : Lexer) :
    Except Refusal Lexer := do
  let lexer ← lexer.saveKey
  let (token, cursor) ← read lexer.cursor
  return ((lexer.allow false).emit token).moveTo cursor

/-- A plain scalar.  When it ends behind a break a key may follow. -/
def readPlainScalar (lexer : Lexer) : Except Refusal Lexer := do
  let lexer ← lexer.saveKey
  let (text, broken, cursor) := readPlain lexer.inFlow lexer.innerIndent lexer.cursor
  return ((lexer.allow broken).emit (.scalar text true)).moveTo cursor

/-- A scalar as a block. -/
def readBlockScalar (isFolded : Bool) (lexer : Lexer) : Except Refusal Lexer := do
  let lexer ← (lexer.allow true).dropKey
  let (text, cursor) ← readBlock isFolded (max 1 lexer.innerIndent) lexer.cursor
  return (lexer.emit (.scalar text false)).moveTo cursor

/-- A character that cannot start a plain scalar whatever follows. -/
def isIndicator (c : Char) : Bool :=
  c == quotationMark || c == Char.ofNat 0x60 || "-?:,[]\x7b\x7d#&*!|>'%@".toList.contains c

/-- A plain scalar can start here. -/
def startsPlain (inFlow : Bool) (c : Char) (next : Option Char) : Bool :=
  !isGapNext (some c) &&
    (!isIndicator c || (!isGapNext next && (c == '-' || (!inFlow && (c == '?' || c == ':')))))

/-- The token that starts here with a character. -/
def readToken (c : Char) (lexer : Lexer) : Except Refusal Lexer :=
  let cursor := lexer.cursor
  let next := cursor.peekSecond
  let atBound := cursor.column == 0 && startsBound cursor.rest
  let withText (token : List Char → Token) (reading : Except Refusal (List Char × Cursor)) :=
    reading.map fun (text, cursor) ↦ (token text, cursor)
  if c = '%' ∧ cursor.column = 0 then do
    let lexer ← lexer.closeAll
    let (token, cursor) ← readDirective cursor
    return (lexer.emit token).moveTo cursor
  else if c = '-' ∧ atBound then lexer.readBound .documentStart
  else if c = '.' ∧ atBound then lexer.readBound .documentEnd
  else if c = '[' then lexer.readOpening .flowSequenceStart
  else if c = '{' then lexer.readOpening .flowMappingStart
  else if c = ']' then lexer.readClosing .flowSequenceEnd
  else if c = '}' then lexer.readClosing .flowMappingEnd
  else if c = ',' then lexer.readFlowEntry
  else if c = '-' ∧ isGapNext next then
    lexer.readBlockSign .blockSequenceStart .blockEntry .indentation true
  else if c = '?' ∧ (lexer.inFlow ∨ isGapNext next) then
    lexer.readBlockSign .blockMappingStart .key .key (!lexer.inFlow)
  else if c = ':' ∧ (lexer.inFlow ∨ isGapNext next) then lexer.readValueSign
  else if c = '*' then lexer.readNode fun cursor ↦ withText .alias (readAnchor cursor)
  else if c = '&' then lexer.readNode fun cursor ↦ withText .anchor (readAnchor cursor)
  else if c = '!' then lexer.readNode readTag
  else if c = '|' ∧ !lexer.inFlow then lexer.readBlockScalar false
  else if c = '>' ∧ !lexer.inFlow then lexer.readBlockScalar true
  else if c = '\'' then
    lexer.readNode fun cursor ↦ withText (.scalar · false) (readQuoted false cursor)
  else if c = quotationMark then
    lexer.readNode fun cursor ↦ withText (.scalar · false) (readQuoted true cursor)
  else if startsPlain lexer.inFlow c next then lexer.readPlainScalar
  else .error (.malformed .character)

/-- Read up to the end of the next token, and tell whether it is the last one. -/
def step (lexer : Lexer) : Except Refusal (Lexer × Bool) := do
  let lexer ← lexer.toToken.dropStale
  let column := lexer.cursor.column
  let lexer := lexer.closeBlocks fun indent ↦ decide (column < indent)
  match lexer.cursor.peek with
  | none => return (← lexer.readEnd, true)
  | some c => return (← lexer.readToken c, false)

/-- The tokens that cannot change any more: those in front of the first possible key. -/
def settled (lexer : Lexer) : List Token :=
  let keys := lexer.keys.filter fun entry ↦ !isStale lexer.cursor entry.2
  let position := keys.foldl (fun position entry ↦ min position entry.2.position) lexer.count
  (lexer.tokens.drop (lexer.count - position)).reverse

/-- Read all tokens.  The fuel bounds their number. -/
def run : Nat → Lexer → List Token × Option Refusal
  | 0, lexer => (lexer.settled, some (.malformed .character))
  | fuel + 1, lexer =>
    match lexer.step with
    | .ok (lexer, true) => (lexer.tokens.reverse, none)
    | .ok (lexer, false) => run fuel lexer
    | .error refusal => (lexer.settled, some refusal)

end Lexer

/-- The tokens of a text, with the reason why there are no more of them when the text is refused.
Those in front of a node that may be a key are known only when the node has ended. -/
structure TokenStream where
  tokens : List Token
  refusal : Option Refusal

/-- A character that may stand in a text. -/
def isTextChar (c : Char) : Bool :=
  let code := c.toNat
  c == '\t' || c == '\n' || c == '\r' || c == '\u0085' ||
    (decide (0x20 ≤ code) && decide (code ≤ 0x7E)) ||
    (decide (0xA0 ≤ code) && decide (code ≤ 0xD7FF)) ||
    (decide (0xE000 ≤ code) && decide (code ≤ 0xFFFD)) || decide (0x10000 ≤ code)

/-- The tokens of a text. -/
def TokenStream.ofText (text : List Char) : TokenStream :=
  if text.all isTextChar then
    let (tokens, refusal) := Lexer.run (text.length + 1) (Lexer.start text)
    ⟨tokens, refusal⟩
  else ⟨[], some (.malformed .character)⟩

end AddonUpkeep.Yaml
