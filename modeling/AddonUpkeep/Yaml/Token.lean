/-!
# Tokens of YAML

The signs and scalars of a text, together with the bounds of the blocks that its indentation forms.
-/

namespace AddonUpkeep.Yaml

/-- What a directive declares. -/
inductive Directive where
  | version (major minor : Int)
  | tagHandle (handle start : List Char)
  | unknown
  deriving DecidableEq, Repr

/-- A token. -/
inductive Token where
  | directive (declared : Directive)
  | documentStart
  | documentEnd
  | blockSequenceStart
  | blockMappingStart
  | blockEnd
  | flowSequenceStart
  | flowSequenceEnd
  | flowMappingStart
  | flowMappingEnd
  | flowEntry
  | blockEntry
  | key
  | value
  | alias (name : List Char)
  | anchor (name : List Char)
  | tag (handle : Option (List Char)) (suffix : List Char)
  | scalar (text : List Char) (isPlain : Bool)
  | streamEnd
  deriving DecidableEq, Repr

end AddonUpkeep.Yaml
