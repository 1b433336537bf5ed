import AddonUpkeep.Config.Path

/-!
# Files

The files under the working directory.  A directory is there when a file is in it.  A file marks the
end of a line by a line feed, a carriage return or both; once read, by a line feed alone.
-/

namespace AddonUpkeep

/-- Every line end written as a line feed. -/
def Text.unifyLines : List Char → List Char
  | [] => []
  | '\r' :: '\n' :: rest => '\n' :: unifyLines rest
  | '\r' :: rest => '\n' :: unifyLines rest
  | c :: rest => c :: unifyLines rest

/-- Files by the names on the way to them from the working directory. -/
abbrev FileTree := Table (List (List Char)) String

/-- What is found under a path. -/
inductive Found where
  | file (content : String)
  | directory
  | nothing
  | nameTooLong
  deriving DecidableEq, Repr

namespace FileTree

/-- The tree of files given by their paths. -/
def ofFiles (files : List (String × String)) : FileTree :=
  Table.putAll [] (files.map fun file ↦ ((Path.ofString file.1).names, file.2))

/-- A file is somewhere below the names. -/
def isDirectory (tree : FileTree) (names : List (List Char)) : Bool :=
  tree.keys.any fun key ↦ decide (names.length < key.length) && key.take names.length == names

/-- The greatest size of a name in bytes. -/
def nameLimit : Nat := 255

/-- The least size of a path in bytes that is too long. -/
def pathLimit : Nat := 4096

/-- The name that leads to the directory above. -/
def isUp (name : List Char) : Bool := name == ['.', '.']

/-- A name that no file can have. -/
def isTooLong (name : List Char) : Bool := decide (nameLimit < (String.ofList name).utf8ByteSize)

/-- What is found by names from a directory of the tree. -/
def findFrom (tree : FileTree) (here : List (List Char)) : List (List Char) → Found
  | [] => .directory
  | name :: rest =>
    if isUp name then
      if here.isEmpty then outside rest else findFrom tree here.dropLast rest
    else if isTooLong name then .nameTooLong
    else
      let next := here ++ [name]
      match tree.get? next with
      | some content => if rest.isEmpty then .file content else .nothing
      | none => if tree.isDirectory next then findFrom tree next rest else .nothing
where
  /-- What is found by names from a directory above the tree: only the directories above it. -/
  outside : List (List Char) → Found
    | [] => .directory
    | name :: rest =>
      if isUp name then outside rest else if isTooLong name then .nameTooLong else .nothing

/-- What is found under a path. -/
def find (tree : FileTree) (path : Path) : Found :=
  if pathLimit ≤ path.text.utf8ByteSize then .nameTooLong
  else match path.root with
    | .working => tree.findFrom [] path.names
    | _ => findFrom.outside path.names

end FileTree

end AddonUpkeep
