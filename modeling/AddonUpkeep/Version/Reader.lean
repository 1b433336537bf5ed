import AddonUpkeep.Number.Reading
import AddonUpkeep.Text.Blank
import AddonUpkeep.Text.Pieces
import AddonUpkeep.Version.Order

/-!
# Reading versions

A version is read without regard to case, with the spellings and separators that are in use for its
qualifiers, and with any number of letters `v` in front.  Case is disregarded by letter: the Kelvin
sign is read as a letter `k`, a dotted capital `I` and a small one without a dot as a letter `i`,
and a long `s` as a letter `s`.  But only the Kelvin sign has the same small form.
-/

namespace AddonUpkeep

open AddonUpkeep.Text AddonUpkeep.Number

/-- Why a text is no version.  An invalid text is told as it was given and as it was read. -/
inductive VersionProblem where
  | empty
  | invalid (given read : String)
  | longNumber (digits : Nat)
  deriving DecidableEq, Repr

namespace Version

/-- A separator that may stand around a qualifier. -/
def isSeparator (c : Char) : Bool := c == '-' || c == '_' || c == '.'

/-- The text without one separator in front. -/
def skipSeparator : List Char → List Char
  | c :: rest => if isSeparator c then rest else c :: rest
  | [] => []

/-- The first of some words that starts a text, with its meaning and what follows. -/
def takeWord? {α : Type} (words : List (List Char × α)) (text : List Char) :
    Option (α × List Char) :=
  words.findSome? fun (word, meaning) ↦ (dropStart? word text).map (meaning, ·)

/-- The digits in front of a text and what follows. -/
def takeDigits (text : List Char) : List Char × List Char :=
  (text.takeWhile isAsciiDigit, text.dropWhile isAsciiDigit)

/-- The words for the stages before a release.  A word comes before its own beginnings. -/
def preWords : List (List Char × PreStage) :=
  [("alpha".toList, .alpha), ("a".toList, .alpha), ("beta".toList, .beta), ("b".toList, .beta),
    ("preview".toList, .candidate), ("prev\u0130ew".toList, .dotted),
    ("prev\u0131ew".toList, .dotless), ("pre".toList, .candidate), ("c".toList, .candidate),
    ("rc".toList, .candidate)]

/-- The words for a post-release. -/
def postWords : List (List Char × PostStage) :=
  [("post".toList, .plain), ("po\u017ft".toList, .long), ("rev".toList, .plain),
    ("r".toList, .plain)]

/-- The word for a development release. -/
def devWords : List (List Char × Unit) := [("dev".toList, ())]

/-- A qualifier: a word with an optional separator on each side, and digits or none. -/
def takeQualifier? {α : Type} (words : List (List Char × α)) (text : List Char) :
    Option ((α × List Char) × List Char) :=
  (takeWord? words (skipSeparator text)).map fun (meaning, rest) ↦
    let (digits, rest) := takeDigits (skipSeparator rest)
    ((meaning, digits), rest)

/-- A post-release: a dash and digits, or a qualifier. -/
def takePost? : List Char → Option ((PostStage × List Char) × List Char)
  | '-' :: c :: rest =>
    if isAsciiDigit c then
      let (digits, rest) := takeDigits (c :: rest)
      some ((.plain, digits), rest)
    else takeQualifier? postWords ('-' :: c :: rest)
  | text => takeQualifier? postWords text

/-- The pieces between points while each holds a digit, behind the pieces already read, which are
given backwards.  The first piece is any row of digits. -/
def takeRelease (read : List (List Char)) (current : List Char) :
    List Char → List (List Char) × List Char
  | '.' :: c :: rest =>
    if isAsciiDigit c then takeRelease (current.reverse :: read) [c] rest
    else ((current.reverse :: read).reverse, '.' :: c :: rest)
  | c :: rest =>
    if isAsciiDigit c then takeRelease read (c :: current) rest
    else ((current.reverse :: read).reverse, c :: rest)
  | [] => ((current.reverse :: read).reverse, [])

/-- A letter that is read as a small one of another form: a dotted capital `I`, a small one without
a dot, or a long `s`. -/
def isVariant (c : Char) : Bool := c == '\u0130' || c == '\u0131' || c == '\u017f'

/-- A lower-case letter, one that is read as such, or a digit. -/
def isPartChar (c : Char) : Bool :=
  isAsciiDigit c || (decide ('a' ≤ c) && decide (c ≤ 'z')) || isVariant c

/-- Local parts between separators; none when a part is empty or holds a foreign character. -/
def localParts? (text : List Char) : Option (List (List Char)) :=
  let parts := pieces '.' (text.map fun c ↦ if isSeparator c then '.' else c)
  if parts.all fun part ↦ !part.isEmpty && part.all isPartChar then some parts else none

/-- The parts of a version as rows of digits and letters. -/
structure Spelling where
  epoch : List Char
  release : List (List Char)
  pre : Option (PreStage × List Char)
  post : Option (PostStage × List Char)
  dev : Option (List Char)
  build : List (List Char)

/-- The parts of a folded text, when it has the form of a version. -/
def spelling? (text : List Char) : Option Spelling :=
  let text := match text with
    | 'v' :: rest => rest
    | text => text
  let (first, rest) := takeDigits text
  let (epoch, text) := match rest with
    | '!' :: rest => (first, rest)
    | _ => ([], text)
  if first.isEmpty then none
  else
    let (release, text) := takeRelease [] [] text
    if release.any List.isEmpty then none
    else
      let (pre, text) := match takeQualifier? preWords text with
        | some (found, rest) => (some found, rest)
        | none => (none, text)
      let (post, text) := match takePost? text with
        | some (found, rest) => (some found, rest)
        | none => (none, text)
      let (dev, text) := match takeQualifier? devWords text with
        | some (found, rest) => (some found.2, rest)
        | none => (none, text)
      match text with
      | [] => some ⟨epoch, release, pre, post, dev, []⟩
      | '+' :: rest => (localParts? rest).map (⟨epoch, release, pre, post, dev, ·⟩)
      | _ => none

/-- The number that digits denote; missing digits denote zero. -/
def number (digits : List Char) : Nat := digitsValue 10 digits

/-- The small form of a folded letter.  A dotted capital keeps its dot behind the letter. -/
def smallForm (c : Char) : List Char := if c == '\u0130' then ['i', '\u0307'] else [c]

/-- A local part from its letters and digits. -/
def part (chars : List Char) : LocalPart :=
  if chars.all isAsciiDigit then .number (number chars) else .word (chars.flatMap smallForm)

/-- The version of a spelling. -/
def ofSpelling (spelling : Spelling) : Version where
  epoch := number spelling.epoch
  release := spelling.release.map number
  pre := spelling.pre.map fun (stage, digits) ↦ (stage, number digits)
  post := spelling.post.map fun (stage, digits) ↦ (stage, number digits)
  dev := spelling.dev.map number
  build := spelling.build.map part

/-- All rows of digits of a spelling, in the order in which they are read. -/
def Spelling.numbers (spelling : Spelling) : List (List Char) :=
  spelling.epoch :: spelling.release ++ (spelling.pre.map (·.2)).toList ++
    (spelling.post.map (·.2)).toList ++ spelling.dev.toList ++
    spelling.build.filter (·.all isAsciiDigit)

/-- The letter as which a character is read, as far as that is also its small form. -/
def folded (c : Char) : Char := if c == '\u212a' then 'k' else c.toLower

/-- What is read of a text: blanks at its ends and letters `v` in front do not count. -/
def core (text : String) : List Char := (trimBlanks text.toList).dropWhile (· == 'v')

/-- Read a version. -/
def parse (text : String) : Except VersionProblem Version :=
  if isBlankText text then .error .empty
  else
    let read := core text
    match spelling? ((trimBlanks read).map folded) with
    | none => .error (.invalid text (String.ofList read))
    | some spelling =>
      match spelling.numbers.find? fun digits ↦ digitLimit < digits.length with
      | none => .ok (ofSpelling spelling)
      | some digits => .error (.longNumber digits.length)

/-- Read two versions and tell whether the second is at least the first.  The second is read
first. -/
def isAtLeast (minimum version : String) : Except VersionProblem Bool := do
  let version ← parse version
  let minimum ← parse minimum
  return version.atLeast minimum

end Version

end AddonUpkeep
