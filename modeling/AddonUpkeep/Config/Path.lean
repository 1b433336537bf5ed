import AddonUpkeep.Fault.Basic

/-!
# Paths

A path is a root and a row of names.  Empty names and single points are dropped when a path is read,
and exactly two slashes in front are a root of their own.  A tilde in front stands for a home.
-/

namespace AddonUpkeep

open AddonUpkeep.Text

/-- What a path starts from: the working directory, the root, or the root with two slashes. -/
inductive PathRoot where
  | working
  | single
  | double
  deriving DecidableEq, Repr

/-- The text of a root. -/
def PathRoot.chars : PathRoot → List Char
  | working => []
  | single => ['/']
  | double => ['/', '/']

/-- The homes of accounts: of the one that runs the program, and of others by their names. -/
structure Accounts where
  own : Option String := none
  homes : Table String String := []

/-- A path. -/
structure Path where
  root : PathRoot
  names : List (List Char)
  deriving DecidableEq, Repr

namespace Path

/-- The root of a text. -/
def rootOf : List Char → PathRoot
  | '/' :: '/' :: '/' :: _ => .single
  | '/' :: '/' :: _ => .double
  | '/' :: _ => .single
  | _ => .working

/-- A name that is part of a path. -/
def isName (name : List Char) : Bool := name != [] && name != ['.']

/-- Read a path. -/
def ofChars (text : List Char) : Path := ⟨rootOf text, (pieces '/' text).filter isName⟩

/-- Read a path. -/
def ofString (text : String) : Path := ofChars text.toList

/-- The text of a path.  The working directory itself is a point. -/
def chars (path : Path) : List Char :=
  let text := path.root.chars ++ joinPieces ['/'] path.names
  if text.isEmpty then ['.'] else text

/-- The text of a path. -/
def text (path : Path) : String := String.ofList path.chars

/-- The home that a name behind a tilde stands for.  A tilde alone is the home of the user, or of
the account that runs the program when the user has none. -/
def homeOf? (home : Option String) (accounts : Accounts) (account : List Char) : Option String :=
  if account.isEmpty then home.or accounts.own else accounts.homes.get? (String.ofList account)

/-- A home without the slashes at its end, at least the root. -/
def homeChars (home : List Char) : List Char :=
  let bare := (home.reverse.dropWhile (· == '/')).reverse
  if bare.isEmpty then ['/'] else bare

/-- The path with a tilde in front replaced by the home that it stands for. -/
def expandHome (home : Option String) (accounts : Accounts) (path : Path) : Except Fault Path :=
  match path.root, path.names with
  | .working, ('~' :: account) :: names =>
    match homeOf? home accounts account with
    | none => .error .noHome
    | some found =>
      match homeChars found.toList with
      | '~' :: _ => .error .noHome
      | chars =>
        let start := ofChars chars
        .ok ⟨start.root, start.names ++ names⟩
  | _, _ => .ok path

end Path

end AddonUpkeep
