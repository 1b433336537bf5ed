/-!
# Kinds of faults

The faults of this library form a tree, so that a caller can ask for a whole branch.  The kinds
outside the tree are those of malformed input that the library does not foresee.
-/

namespace AddonUpkeep

/-- The kinds of faults. -/
inductive FaultKind where
  | addon
  | configuration
  | missingFile
  | invalidFile
  | command
  | missingResource
  | conflict
  | integrity
  | imageForm
  | version
  | badValue
  | runtime
  | wrongType
  | wrongShape
  | missingKey
  | missingItem
  | overflow
  | depth
  | directory
  | system
  | markup
  deriving DecidableEq, Repr

namespace FaultKind

/-- The kind that a kind is a special case of. -/
def parent? : FaultKind → Option FaultKind
  | configuration | command | integrity | imageForm | version => some addon
  | missingFile | invalidFile => some configuration
  | missingResource | conflict => some command
  | _ => none

/-- The kind and the kinds it is a special case of, from the special to the general. -/
def lineage (kind : FaultKind) : List FaultKind :=
  match kind.parent? with
  | none => [kind]
  | some parent => match parent.parent? with
    | none => [kind, parent]
    | some root => [kind, parent, root]

/-- A kind of the tree, which the command line reports and does not pass on. -/
def isForeseen (kind : FaultKind) : Bool := kind.lineage.contains addon

end FaultKind

end AddonUpkeep
