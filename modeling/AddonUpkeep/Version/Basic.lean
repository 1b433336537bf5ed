/-!
# Release versions

A version is an epoch, a row of release numbers and optional qualifiers: a pre-release, a
post-release, a development release and the local parts behind a plus sign.  Its text is the one
normal form of the version.
-/

namespace AddonUpkeep

/-- The stages before a release.  A preview is a release candidate, unless its letter `i` is a
dotted capital or has no dot: then the word is kept and makes a stage of its own. -/
inductive PreStage where
  | alpha
  | beta
  | dotted
  | dotless
  | candidate
  deriving DecidableEq, Repr

/-- The letters of a stage in a normal version. -/
def PreStage.letters : PreStage → List Char
  | alpha => ['a']
  | beta => ['b']
  | dotted => "previ\u0307ew".toList
  | dotless => "prev\u0131ew".toList
  | candidate => ['r', 'c']

/-- The rank of a stage on the way to the release. -/
def PreStage.rank : PreStage → Nat
  | alpha => 0
  | beta => 1
  | dotted => 2
  | dotless => 3
  | candidate => 4

/-- The stages behind a release: the word is kept apart when its letter `s` is a long one. -/
inductive PostStage where
  | plain
  | long
  deriving DecidableEq, Repr

/-- The rank of a stage behind the release. -/
def PostStage.rank : PostStage → Nat
  | plain => 0
  | long => 1

/-- A local part is a number, or a lower-case word with a letter in it. -/
inductive LocalPart where
  | word (letters : List Char)
  | number (value : Nat)
  deriving DecidableEq, Repr

/-- The text of a local part. -/
def LocalPart.chars : LocalPart → List Char
  | word letters => letters
  | number value => Nat.toDigits 10 value

/-- A release version. -/
structure Version where
  epoch : Nat
  release : List Nat
  pre : Option (PreStage × Nat)
  post : Option (PostStage × Nat)
  dev : Option Nat
  build : List LocalPart
  deriving DecidableEq, Repr

namespace Version

/-- Numbers with points between them. -/
def dottedChars (parts : List (List Char)) : List Char := (parts.intersperse ['.']).flatten

/-- The normal text of a version.  An epoch of zero is left out, and so is the stage behind the
release. -/
def chars (version : Version) : List Char :=
  (if version.epoch = 0 then [] else Nat.toDigits 10 version.epoch ++ ['!']) ++
    dottedChars (version.release.map (Nat.toDigits 10)) ++
    (match version.pre with
      | none => []
      | some (stage, number) => stage.letters ++ Nat.toDigits 10 number) ++
    (match version.post with
      | none => []
      | some (_, number) => ['.', 'p', 'o', 's', 't'] ++ Nat.toDigits 10 number) ++
    (match version.dev with
      | none => []
      | some number => ['.', 'd', 'e', 'v'] ++ Nat.toDigits 10 number) ++
    (if version.build.isEmpty then []
      else '+' :: dottedChars (version.build.map LocalPart.chars))

/-- The normal text of a version. -/
def text (version : Version) : String := String.ofList version.chars

end Version

end AddonUpkeep
