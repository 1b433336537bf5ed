import AddonUpkeep.Yaml.Lexer
import AddonUpkeep.Yaml.Tag

/-!
# The nodes of a document

Nodes refer to each other by number, so that an alias is the node of its anchor and a node may hold
itself.  A node is numbered before its children.
-/

namespace AddonUpkeep.Yaml

/-- The number of a node. -/
abbrev NodeId := Nat

/-- What a node holds. -/
inductive NodeContent where
  | scalar (text : List Char)
  | sequence (items : List NodeId)
  | mapping (entries : List (NodeId × NodeId))
  deriving DecidableEq, Repr

/-- A node. -/
structure Node where
  tag : Tag
  content : NodeContent
  deriving DecidableEq, Repr

/-- Nodes by number. -/
abbrev Nodes := Array Node

/-- A document, and its outermost node if it is not empty. -/
structure Graph where
  nodes : Nodes
  root : Option NodeId

/-- A document that is built from tokens: the tokens to come, the reason why there are no more, the
nodes so far, the anchors and the handles that tags may have. -/
structure Builder where
  tokens : List Token
  refusal : Option Refusal
  nodes : Nodes := #[]
  anchors : List (List Char × NodeId) := []
  handles : List (List Char × List Char) := []

/-- A step of building. -/
abbrev Build (α : Type) := StateT Builder (Except Refusal) α

namespace Build

/-- The text violates the syntax. -/
def refuse {α : Type} (violation : Violation) : Build α := throw (.malformed violation)

/-- The next token. -/
def peek : Build Token := do
  let builder ← get
  match builder.tokens with
  | token :: _ => return token
  | [] => throw (builder.refusal.getD (.malformed .document))

/-- Go to the token behind the next one. -/
def drop : Build Unit := modify fun builder ↦ { builder with tokens := builder.tokens.tail }

/-- Go past the next token if it is the given one. -/
def dropIf (token : Token) : Build Bool := do
  if (← peek) = token then
    drop
    return true
  else return false

/-- Go past the next token, which must be the given one. -/
def expect (token : Token) : Build Unit := do
  if !(← dropIf token) then refuse .arrangement

/-- Add a node. -/
def add (node : Node) : Build NodeId :=
  modifyGet fun builder ↦
    (builder.nodes.size, { builder with nodes := builder.nodes.push node })

/-- Set the content of a node. -/
def fill (id : NodeId) (content : NodeContent) : Build Unit :=
  modify fun builder ↦
    { builder with nodes := builder.nodes.modify id fun node ↦ { node with content } }

/-- The node that stands for nothing where one is left out. -/
def addEmpty : Build NodeId := add ⟨.null, .scalar []⟩

/-- Give a node its anchor, which no other may have. -/
def bindAnchor (anchor : Option (List Char)) (id : NodeId) : Build Unit := do
  match anchor with
  | none => pure ()
  | some name =>
    let builder ← get
    if (builder.anchors.lookup name).isSome then refuse .anchor
    else set { builder with anchors := (name, id) :: builder.anchors }

/-- Whether one of some tokens is next. -/
def isNext (tokens : List Token) : Build Bool := do return tokens.contains (← peek)

/-- The whole tag of a handle and a suffix. -/
def wholeTag (handle : Option (List Char)) (suffix : List Char) : Build (List Char) := do
  match handle with
  | none => return suffix
  | some handle => match (← get).handles.lookup handle with
    | some start => return start ++ suffix
    | none => refuse .tag

/-- The anchor in front of a node. -/
def readAnchor : Build (Option (List Char)) := do
  match ← peek with
  | .anchor name =>
    drop
    return some name
  | _ => return none

/-- The tag in front of a node. -/
def readTag : Build (Option (Option (List Char) × List Char)) := do
  match ← peek with
  | .tag handle suffix =>
    drop
    return some (handle, suffix)
  | _ => return none

/-- The anchor and the tag in front of a node, in either order. -/
def readProperties : Build (Option (List Char) × Option (List Char)) := do
  let before ← readAnchor
  let tag ← readTag
  let anchor ← if before.isNone && tag.isSome then readAnchor else pure before
  let tag ← tag.mapM fun (handle, suffix) ↦ wholeTag handle suffix
  return (anchor, tag)

/-- The tag of a scalar.  Its form counts when it is plain and has no tag, or when its tag leaves
the kind of value open. -/
def scalarTag (tag : Option (List Char)) (isPlain : Bool) (text : List Char) : Tag :=
  match tag with
  | none => if isPlain then .ofForm text else .str
  | some tag => if tag = ['!'] then .ofForm text else .ofText tag

/-- The tag of a collection. -/
def collectionTag (tag : Option (List Char)) (default : Tag) : Tag :=
  match tag with
  | none => default
  | some tag => if tag = ['!'] then default else .ofText tag

/-- Add a scalar. -/
def addScalar (anchor : Option (List Char)) (tag : Tag) (text : List Char) : Build NodeId := do
  let id ← add ⟨tag, .scalar text⟩
  bindAnchor anchor id
  return id

/-- Add a collection.  It has its anchor already while its content is read. -/
def addCollection (anchor : Option (List Char)) (tag : Tag) (content : Build NodeContent) :
    Build NodeId := do
  let id ← add ⟨tag, .sequence []⟩
  bindAnchor anchor id
  fill id (← content)
  return id

/-! ## Nodes -/

/-- Where a node stands, which tells the collections that it can be: inside of brackets, inside of a
block, or as a key or value of a block, where the entries of a sequence need no indentation. -/
inductive Site where
  | flow
  | block
  | blockPart
  deriving DecidableEq, Repr

/-- The greatest nesting of nodes that is read. -/
def nestingLimit : Nat := 485

/-- The node of an anchor. -/
def readAlias (name : List Char) : Build NodeId := do
  match (← get).anchors.lookup name with
  | some id =>
    drop
    return id
  | none => refuse .anchor

/-- A node, or nothing when one of some tokens is next. -/
def unlessNext (tokens : List Token) (read : Build NodeId) : Build NodeId := do
  if ← isNext tokens then addEmpty else read

/-- The value behind its sign, or nothing without a sign. -/
def valueUnlessNext (tokens : List Token) (read : Build NodeId) : Build NodeId := do
  if ← dropIf .value then unlessNext tokens read else addEmpty

mutual

/-- A node at a depth.  The fuel bounds the number of steps; every few steps read a token. -/
def readNode (fuel depth : Nat) (site : Site) : Build NodeId :=
  match fuel with
  | 0 => refuse .arrangement
  | fuel + 1 => do
    if nestingLimit < depth then throw (.value (.tooDeep ""))
    match ← peek with
    | .alias name => readAlias name
    | _ =>
      let (anchor, tag) ← readProperties
      let sequence (items : Build (List NodeId)) := do
        drop
        addCollection anchor (collectionTag tag .seq) (return .sequence (← items))
      let mapping (entries : Build (List (NodeId × NodeId))) := do
        drop
        addCollection anchor (collectionTag tag .map) (return .mapping (← entries))
      match ← peek, site with
      | .scalar text isPlain, _ => do
        drop
        addScalar anchor (scalarTag tag isPlain text) text
      | .flowSequenceStart, _ => sequence (readFlowItems fuel (depth + 1) true)
      | .flowMappingStart, _ => mapping (readFlowEntries fuel (depth + 1) true)
      | .blockSequenceStart, .block | .blockSequenceStart, .blockPart =>
        sequence (readBlockItems fuel (depth + 1))
      | .blockMappingStart, .block | .blockMappingStart, .blockPart =>
        mapping (readBlockEntries fuel (depth + 1))
      | .blockEntry, .blockPart =>
        addCollection anchor (collectionTag tag .seq)
          (return .sequence (← readBareItems fuel (depth + 1)))
      | _, _ =>
        if anchor.isNone && tag.isNone then refuse .arrangement
        else addScalar anchor (scalarTag tag true []) []
termination_by structural fuel

/-- The items of a sequence as a block, up to its end. -/
def readBlockItems (fuel depth : Nat) : Build (List NodeId) :=
  match fuel with
  | 0 => refuse .arrangement
  | fuel + 1 => do
    if ← dropIf .blockEntry then
      let item ← unlessNext [.blockEntry, .blockEnd] (readNode fuel depth .block)
      return item :: (← readBlockItems fuel depth)
    else
      expect .blockEnd
      return []
termination_by structural fuel

/-- The items of a sequence without indentation, which ends where no entry follows. -/
def readBareItems (fuel depth : Nat) : Build (List NodeId) :=
  match fuel with
  | 0 => refuse .arrangement
  | fuel + 1 => do
    if ← dropIf .blockEntry then
      let item ← unlessNext [.blockEntry, .key, .value, .blockEnd] (readNode fuel depth .block)
      return item :: (← readBareItems fuel depth)
    else return []
termination_by structural fuel

/-- The entries of a mapping as a block, up to its end. -/
def readBlockEntries (fuel depth : Nat) : Build (List (NodeId × NodeId)) :=
  match fuel with
  | 0 => refuse .arrangement
  | fuel + 1 => do
    if ← dropIf .key then
      let part := readNode fuel depth .blockPart
      let key ← unlessNext [.key, .value, .blockEnd] part
      let value ← valueUnlessNext [.key, .value, .blockEnd] part
      return (key, value) :: (← readBlockEntries fuel depth)
    else
      expect .blockEnd
      return []
termination_by structural fuel

/-- The items of a sequence in brackets, up to the closing one.  An item can be a single entry of a
mapping. -/
def readFlowItems (fuel depth : Nat) (isFirst : Bool) : Build (List NodeId) :=
  match fuel with
  | 0 => refuse .arrangement
  | fuel + 1 => do
    if ← dropIf .flowSequenceEnd then return []
    if !isFirst then expect .flowEntry
    if ← dropIf .flowSequenceEnd then return []
    let item ← if ← dropIf .key then
        addCollection none .map do
          let part := readNode fuel (depth + 1) .flow
          let key ← unlessNext [.value, .flowEntry, .flowSequenceEnd] part
          let value ← valueUnlessNext [.flowEntry, .flowSequenceEnd] part
          return .mapping [(key, value)]
      else readNode fuel depth .flow
    return item :: (← readFlowItems fuel depth false)
termination_by structural fuel

/-- The entries of a mapping in brackets, up to the closing one. -/
def readFlowEntries (fuel depth : Nat) (isFirst : Bool) : Build (List (NodeId × NodeId)) :=
  match fuel with
  | 0 => refuse .arrangement
  | fuel + 1 => do
    if ← dropIf .flowMappingEnd then return []
    if !isFirst then expect .flowEntry
    if ← dropIf .flowMappingEnd then return []
    let part := readNode fuel depth .flow
    let isMarked ← dropIf .key
    let key ← if isMarked then unlessNext [.value, .flowEntry, .flowMappingEnd] part else part
    let value ← if isMarked then valueUnlessNext [.flowEntry, .flowMappingEnd] part else addEmpty
    return (key, value) :: (← readFlowEntries fuel depth false)
termination_by structural fuel

end

/-! ## Documents -/

/-- The handles that every document has. -/
def commonHandles : List (List Char × List Char) :=
  [(['!'], ['!']), (['!', '!'], Tag.commonStart)]

/-- The handles that directives declare.  Only the first version of the language is read, and
nothing may be declared twice. -/
def declaredHandles (hasVersion : Bool) (handles : List (List Char × List Char)) :
    List Token → Build (List (List Char × List Char))
  | .directive (.version major _) :: rest =>
    if hasVersion || major != 1 then refuse .directive else declaredHandles true handles rest
  | .directive (.tagHandle handle start) :: rest =>
    if (handles.lookup handle).isSome then refuse .directive
    else declaredHandles hasVersion ((handle, start) :: handles) rest
  | _ :: rest => declaredHandles hasVersion handles rest
  | [] => return handles

/-- A directive. -/
def isDirective : Token → Bool
  | .directive _ => true
  | _ => false

/-- The directives in front of a document. -/
def readDirectives : Build Unit := do
  let tokens := (← get).tokens
  let handles ← declaredHandles false [] (tokens.takeWhile isDirective)
  modify fun builder ↦ { builder with
    tokens := tokens.dropWhile isDirective
    handles := handles ++ commonHandles }

/-- A document without content ends at a token. -/
def endsDocument (token : Token) : Bool :=
  isDirective token || [.documentStart, .documentEnd, .streamEnd].contains token

/-- The outermost node of the only document of a text, if there is one. -/
def readDocument : Build (Option NodeId) := do
  let first ← peek
  if first = .streamEnd then return none
  let fuel := 4 * (← get).tokens.length + 4
  let isMarked := isDirective first || first == .documentStart
  readDirectives
  if isMarked then expect .documentStart
  let root ← if isMarked && endsDocument (← peek) then addEmpty else readNode fuel 0 .block
  modify fun builder ↦ { builder with
    tokens := builder.tokens.dropWhile (· == .documentEnd) }
  if (← peek) = .streamEnd then return some root else refuse .document

end Build

/-- The nodes of a text that holds at most one document. -/
def Graph.ofText (text : List Char) : Except Refusal Graph := do
  let stream := TokenStream.ofText text
  let (root, builder) ← Build.readDocument.run
    { tokens := stream.tokens, refusal := stream.refusal }
  return ⟨builder.nodes, root⟩

end AddonUpkeep.Yaml
