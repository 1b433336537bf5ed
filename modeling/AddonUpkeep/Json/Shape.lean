import AddonUpkeep.Json.Basic

/-!
# Documents of an expected shape

Reading a document field by field.  A part that is absent, null, false, zero or empty reads as an
empty object or an empty array; a part of another kind than the one asked for is a problem.
-/

namespace AddonUpkeep

/-- What a part of a document cannot do because of its kind. -/
inductive ShapeProblem where
  | hasNoFields (kind : String)
  | hasNoPieces (kind : String)
  | hasNoItems (kind : String)
  | hasNoMembers (kind : String)
  | hasNoSize (kind : String)
  | hasNoFirst
  | isNoKey (kind : String)
  | isNoText (position : Nat) (kind : String)
  deriving DecidableEq, Repr

/-- The wording of a problem. -/
def ShapeProblem.message : ShapeProblem → String
  | hasNoFields kind => s!"'{kind}' object has no attribute 'get'"
  | hasNoPieces kind => s!"'{kind}' object has no attribute 'split'"
  | hasNoItems kind => s!"'{kind}' object is not iterable"
  | hasNoMembers kind => s!"argument of type '{kind}' is not iterable"
  | hasNoSize kind => s!"object of type '{kind}' has no len()"
  | hasNoFirst => "0"
  | isNoKey kind => s!"unhashable type: '{kind}'"
  | isNoText position kind => s!"sequence item {position}: expected str instance, {kind} found"

namespace Json

/-- The value of a field of an object, if it is there. -/
def lookup (document : Json) (name : String) : Except ShapeProblem (Option Json) :=
  match document with
  | obj fields => .ok (Table.get? fields name)
  | other => .error (.hasNoFields other.kindName)

/-- The value of a field, or the given document in its place when it is absent. -/
def presentOr (absent : Json) : Option Json → Json
  | some value => if value.isPresent then value else absent
  | none => absent

/-- The object in a field, empty when it is absent. -/
def child (document : Json) (name : String) : Except ShapeProblem Json := do
  return presentOr (obj []) (← document.lookup name)

/-- The document at the end of a path of fields, empty when a step of the path is absent. -/
def descend (document : Json) : List String → Except ShapeProblem Json
  | [] => .ok document
  | name :: path => do descend (← document.child name) path

/-- What iterating over a document gives: the items of an array, the names of an object, the
characters of a text. -/
def iterate : Json → Except ShapeProblem (List Json)
  | arr items => .ok items
  | obj fields => .ok (fields.map fun field ↦ str field.1)
  | str text => .ok (text.toList.map fun c ↦ str (String.ofList [c]))
  | other => .error (.hasNoItems other.kindName)

end Json

end AddonUpkeep
