import AddonUpkeep.Config.FileTree
import AddonUpkeep.Text.Blank
import AddonUpkeep.Text.Pieces
import AddonUpkeep.Text.Quoted

/-!
# Environment files

A file of lines `NAME=value`, each of which may start with the word `export`.  A name without an
equals sign is known and has no value.  Values are bare up to a comment, or stand between quotes and
may then span lines.  A value can refer to variables as `${NAME}`, with a default as
`${NAME:-default}`.  A line of any other form is skipped.
-/

namespace AddonUpkeep

/-- Variables by name. -/
abbrev Environment := Table String String

namespace EnvFile

open AddonUpkeep.Text

/-- A line of the file. -/
structure Binding where
  name : List Char
  value : Option (List Char)
  deriving DecidableEq, Repr

/-- A blank that does not end the line. -/
def isGap (c : Char) : Bool := isBlank c && c != '\n'

/-- What follows the current line. -/
def nextLine (text : List Char) : List Char := (text.dropWhile (· != '\n')).drop 1

/-- The text behind the word `export` and the blanks that must follow it. -/
def dropExport (text : List Char) : List Char :=
  match dropStart? ['e', 'x', 'p', 'o', 'r', 't'] text with
  | some (c :: rest) => if isGap c then rest.dropWhile isGap else text
  | _ => text

/-- A character of a bare name. -/
def isNameChar (c : Char) : Bool := c != '=' && c != '#' && !isBlank c

/-- The name in front of the text, which is bare or between single quotes and not empty.  A comment
has no name. -/
def readName (text : List Char) : Except (List Char) (Option (List Char) × List Char) :=
  match text with
  | '#' :: _ => .ok (none, text)
  | '\'' :: rest =>
    let name := rest.takeWhile (· != '\'')
    match rest.dropWhile (· != '\'') with
    | _ :: after => if name.isEmpty then .error text else .ok (some name, after)
    | [] => .error text
  | _ =>
    let name := text.takeWhile isNameChar
    if name.isEmpty then .error text else .ok (some name, text.dropWhile isNameChar)

/-- The text up to its closing quote, and what follows.  A quote behind a backslash closes only when
no later one does. -/
def takeQuoted? (quote : Char) : List Char → Option (List Char × List Char)
  | [] => none
  | '\\' :: c :: rest =>
    if c = quote then
      match takeQuoted? quote rest with
      | some (inner, after) => some ('\\' :: c :: inner, after)
      | none => some (['\\'], rest)
    else (takeQuoted? quote (c :: rest)).map fun (inner, after) ↦ ('\\' :: inner, after)
  | c :: rest =>
    if c = quote then some ([], rest)
    else (takeQuoted? quote rest).map fun (inner, after) ↦ (c :: inner, after)

/-- What the letters behind a backslash stand for between single quotes. -/
def singleEscapes : Table Char Char := [('\\', '\\'), ('\'', '\'')]

/-- What the letters behind a backslash stand for between double quotes. -/
def doubleEscapes : Table Char Char :=
  [('\\', '\\'), ('\'', '\''), (quotationMark, quotationMark), ('a', '\x07'), ('b', '\x08'),
    ('f', '\x0C'), ('n', '\n'), ('r', '\r'), ('t', '\t'), ('v', '\x0B')]

/-- The text with its escapes replaced.  A backslash in front of any other character stays. -/
def unescape (escapes : Table Char Char) : List Char → List Char
  | [] => []
  | '\\' :: c :: rest =>
    match escapes.get? c with
    | some meant => meant :: unescape escapes rest
    | none => '\\' :: unescape escapes (c :: rest)
  | c :: rest => c :: unescape escapes rest

/-- A bare value up to a comment, which starts at a number sign behind a blank. -/
def dropComment : List Char → List Char
  | [] => []
  | c :: rest => if isBlank c && rest.head? == some '#' then [] else c :: dropComment rest

/-- The value in front of the text. -/
def readValue (text : List Char) : Except (List Char) (List Char × List Char) :=
  match text with
  | [] => .ok ([], [])
  | c :: rest =>
    if c = '\'' ∨ c = quotationMark then
      match takeQuoted? c rest with
      | some (inner, after) =>
        .ok (unescape (if c = '\'' then singleEscapes else doubleEscapes) inner, after)
      | none => .error text
    else
      .ok (trimRight (dropComment (text.takeWhile (· != '\n'))), text.dropWhile (· != '\n'))

/-- What follows the end of the line, in front of which there may only be a comment. -/
def readLineEnd (text : List Char) : Except (List Char) (List Char) :=
  match text.dropWhile isGap with
  | [] => .ok []
  | '\n' :: rest => .ok rest
  | '#' :: rest => .ok (nextLine rest)
  | rest => .error rest

/-- The binding in front of the text, if its line has one, and what follows the line. -/
def readBinding (text : List Char) : Except (List Char) (Option Binding × List Char) := do
  let (name?, rest) ← readName (dropExport text)
  let rest := rest.dropWhile isGap
  let (value, rest) ← match rest with
    | '=' :: rest => do
      let (value, rest) ← readValue (rest.dropWhile isGap)
      pure (some value, rest)
    | rest => pure (none, rest)
  let rest ← readLineEnd rest
  return (name?.map (⟨·, value⟩), rest)

/-- The bindings of a file in order.  Behind a line of another form reading goes on.  The fuel
bounds the number of lines. -/
def bindingsWithin : Nat → List Char → List Binding
  | 0, _ => []
  | fuel + 1, text =>
    let start := text.dropWhile isBlank
    if start.isEmpty then []
    else
      let (binding?, rest) := match readBinding start with
        | .ok found => found
        | .error stopped => (none, nextLine stopped)
      binding?.toList ++ bindingsWithin fuel rest

/-- The bindings of a file in order.  Every line has a character, so no line is left out. -/
def bindings (text : List Char) : List Binding := bindingsWithin (text.length + 1) text

/-- A part of a value: a character, or a reference to a variable. -/
inductive Part where
  | plain (c : Char)
  | reference (name default : List Char)
  deriving DecidableEq, Repr

/-- The reference in front of the text and its length. -/
def reference? : List Char → Option (Part × Nat)
  | '$' :: '{' :: rest =>
    let inName (c : Char) := c != '}' && c != ':'
    let name := rest.takeWhile inName
    match rest.dropWhile inName with
    | '}' :: _ => some (.reference name [], name.length + 3)
    | ':' :: '-' :: rest =>
      let default := rest.takeWhile (· != '}')
      if rest.contains '}' then some (.reference name default, name.length + default.length + 5)
      else none
    | _ => none
  | _ => none

/-- The parts of a value, after skipping a number of characters. -/
def partsAfter : Nat → List Char → List Part
  | _, [] => []
  | skip + 1, _ :: rest => partsAfter skip rest
  | 0, c :: rest =>
    match reference? (c :: rest) with
    | some (part, length) => part :: partsAfter (length - 1) rest
    | none => .plain c :: partsAfter 0 rest

/-- The parts of a value. -/
def parts (value : List Char) : List Part := partsAfter 0 value

/-- The text of a part.  A variable is looked up in the environment first and among the earlier
names of the file then. -/
def Part.text (environment : Environment) (earlier : Table String (Option String)) :
    Part → List Char
  | plain c => [c]
  | reference name default =>
    match environment.get? (String.ofList name) with
    | some value => value.toList
    | none => match earlier.get? (String.ofList name) with
      | some value => (value.getD "").toList
      | none => default

/-- The names of a file with their values, references replaced. -/
def resolve (environment : Environment) (bindings : List Binding) : Table String (Option String) :=
  bindings.foldl (fun earlier binding ↦
    earlier.put (String.ofList binding.name) (binding.value.map fun value ↦
      String.ofList ((parts value).flatMap (·.text environment earlier)))) []

/-- The names of a file with their values. -/
def read (environment : Environment) (text : String) : Table String (Option String) :=
  resolve environment (bindings (unifyLines text.toList))

end EnvFile

end AddonUpkeep
