import AddonUpkeep.Yaml.Graph
import AddonUpkeep.Yaml.Value

/-!
# Documents

The setting that the nodes of a document denote.  The nodes are visited in the order of their depth,
so the first refusal is the one nearest to the root.  A merged mapping stands in front of the
entries of the mapping that it is merged into.
-/

namespace AddonUpkeep.Yaml

/-- The kinds of collections that a tag can name. -/
inductive CollectionTag where
  | list
  | pairs
  | map
  | set
  deriving DecidableEq, Repr

/-- The collection of a tag. -/
def CollectionTag.ofTag? : Tag → Option CollectionTag
  | .seq => some list
  | .orderedMap | .pairs => some pairs
  | .map => some map
  | .set => some set
  | _ => none

/-- What a node denotes, in terms of other nodes. -/
inductive Meaning where
  | scalar (value : Setting)
  | list (items : List NodeId)
  | pairs (items : List (NodeId × NodeId))
  | map (entries : List (NodeId × NodeId))
  | set (members : List NodeId)
  deriving Inhabited

/-- The empty collection of a kind. -/
def CollectionTag.empty : CollectionTag → Meaning
  | list => .list []
  | pairs => .pairs []
  | map => .map []
  | set => .set []

/-- The meanings of nodes by their numbers. -/
abbrev Meanings := Array (Option Meaning)

/-- The meaning of a node, if it is known. -/
def Meanings.of? (meanings : Meanings) (id : NodeId) : Option Meaning := meanings[id]?.join

/-- Nodes at work: their meanings so far, and the collections whose content is not known yet, the
first one first. -/
structure Reading where
  nodes : Nodes
  meanings : Meanings
  waiting : List (NodeId × CollectionTag) := []

/-- A step of reading. -/
abbrev Read (α : Type) := StateT Reading (Except Refusal) α

namespace Read

/-- The document denotes nothing. -/
def refuse {α : Type} : Read α := throw (.malformed .content)

/-- A node. -/
def node (id : NodeId) : Read Node := do
  match (← get).nodes[id]? with
  | some node => return node
  | none => refuse

/-- The entries of a mapping. -/
def entriesOf (id : NodeId) : Read (List (NodeId × NodeId)) := do
  match (← node id).content with
  | .mapping entries => return entries
  | _ => refuse

/-- Set the entries of a mapping. -/
def setEntries (id : NodeId) (entries : List (NodeId × NodeId)) : Read Unit :=
  modify fun reading ↦ { reading with
    nodes := reading.nodes.modify id fun node ↦ { node with content := .mapping entries } }

/-- Set the tag of a node. -/
def setTag (id : NodeId) (tag : Tag) : Read Unit :=
  modify fun reading ↦ { reading with
    nodes := reading.nodes.modify id fun node ↦ { node with tag } }

/-- Set the meaning of a node. -/
def setMeaning (id : NodeId) (meaning : Meaning) : Read Unit :=
  modify fun reading ↦
    { reading with meanings := reading.meanings.setIfInBounds id (some meaning) }

/-! ## Merged mappings -/

/-- The first entry whose key has the tag of merging, and the entries without it. -/
def takeMerge (nodes : Nodes) :
    List (NodeId × NodeId) → Option (NodeId × List (NodeId × NodeId))
  | [] => none
  | (key, value) :: rest =>
    if (nodes[key]?.map Node.tag) = some .merge then some (value, rest)
    else (takeMerge nodes rest).map fun (found, left) ↦ (found, (key, value) :: left)

/-- The number of entries whose key has the tag of merging. -/
def mergeCount (nodes : Nodes) : Nat :=
  nodes.foldl (fun count node ↦ match node.content with
    | .mapping entries => count + (entries.filter fun entry ↦
        (nodes[entry.1]?.map Node.tag) = some .merge).length
    | _ => count) 0

/-- The longest chain of mappings of which each is merged into the one before it, or stands for
it. -/
def chainLimit : Nat := 981

/-- Put the mappings that are merged into a mapping in front of its own entries, behind those that
are gathered already.  Of several that are merged at once the last comes first.  A key that is an
equals sign becomes a text.  The fuel bounds the number of merging entries; the depth is the number
of mappings that wait for this one. -/
def flatten : Nat → Nat → NodeId → List (NodeId × NodeId) → Read Unit
  | 0, _, _, _ => refuse
  | fuel + 1, depth, id, gathered => do
    if chainLimit < depth then throw (.value (.tooDeep ""))
    let entries ← entriesOf id
    match takeMerge (← get).nodes entries with
    | none =>
      for entry in entries do
        if (← node entry.1).tag = .value then setTag entry.1 .str
      if !gathered.isEmpty then setEntries id (gathered ++ entries)
    | some (value, left) =>
      setEntries id left
      match (← node value).content with
      | .mapping _ =>
        flatten fuel (depth + 1) value []
        flatten fuel depth id (gathered ++ (← entriesOf value))
      | .sequence items =>
        let merged ← items.mapM fun item ↦ do
          let _ ← entriesOf item
          flatten fuel (depth + 1) item []
          entriesOf item
        flatten fuel depth id (gathered ++ merged.reverse.flatten)
      | .scalar _ => refuse

/-! ## Meanings -/

/-- The text of a scalar.  A mapping stands for the value of its key that is an equals sign, if it
has one.  The fuel bounds the number of mappings in between. -/
def textOf : Nat → NodeId → Read (List Char)
  | 0, _ => throw (.value (.tooDeep ""))
  | fuel + 1, id => do
    match (← node id).content with
    | .scalar text => return text
    | .sequence _ => refuse
    | .mapping entries =>
      let nodes := (← get).nodes
      match entries.find? fun entry ↦ (nodes[entry.1]?.map Node.tag) = some .value with
      | some (_, value) => textOf fuel value
      | none => refuse

/-- Whether a node is a scalar. -/
def isScalar (id : NodeId) : Read Bool := do
  match (← node id).content with
  | .scalar _ => return true
  | _ => return false

/-- The meaning of a node under a tag of scalars. -/
def scalarMeaning (id : NodeId) (tag : Tag) : Read Setting := do
  let text ← textOf chainLimit id
  if tag = .timestamp && !(← isScalar id) then throw (.value (.unforeseen .wrongType))
  match scalarValue? tag text with
  | some (.ok value) => return value
  | some (.error refusal) => throw refusal
  | none => refuse

/-- Give a node its meaning, if it has none yet.  The content of a collection is left for later. -/
def visit (id : NodeId) : Read Meaning := do
  match (← get).meanings.of? id with
  | some meaning => return meaning
  | none =>
    let tag := (← node id).tag
    match CollectionTag.ofTag? tag with
    | some kind =>
      setMeaning id kind.empty
      modify fun reading ↦ { reading with waiting := reading.waiting ++ [(id, kind)] }
      return kind.empty
    | none =>
      if scalarValue? tag [] |>.isNone then refuse
      else
        let meaning := Meaning.scalar (← scalarMeaning id tag)
        setMeaning id meaning
        return meaning

/-- A key of a mapping.  Its owner is its node, except that every not-a-number that is written with
the word for it is one and the same and has no owner. -/
structure Key where
  owner : Option NodeId
  node : NodeId
  value : Setting

/-- Keys are the same when they have one owner or equal values. -/
def Key.isSame (left right : Key) : Bool := left.owner == right.owner || left.value == right.value

instance : BEq Key := ⟨Key.isSame⟩

/-- The key that a node is.  A collection is no key. -/
def keyOf (id : NodeId) : Read Key := do
  match ← visit id with
  | .scalar (.float .nan) =>
    let text ← textOf chainLimit id
    return ⟨if isNanWord text then none else some id, id, .float .nan⟩
  | .scalar value => return ⟨some id, id, value⟩
  | _ => refuse

/-- The entries of a mapping, each key once. -/
def readEntries : Table Key NodeId → List (NodeId × NodeId) → Read (List (NodeId × NodeId))
  | read, [] => return read.map fun entry ↦ (entry.1.node, entry.2)
  | read, (id, value) :: rest => do
    let key ← keyOf id
    let _ ← visit value
    readEntries (read.put key value) rest

/-- The single entry of a mapping. -/
def readPair (id : NodeId) : Read (NodeId × NodeId) := do
  match ← entriesOf id with
  | [(key, value)] =>
    let _ ← visit key
    let _ ← visit value
    return (key, value)
  | _ => refuse

/-- The items of a sequence. -/
def itemsOf (id : NodeId) : Read (List NodeId) := do
  match (← node id).content with
  | .sequence items => return items
  | _ => refuse

/-- Give a collection its content, in a document with some number of merging entries. -/
def complete (merges : Nat) (id : NodeId) (kind : CollectionTag) : Read Unit := do
  match kind with
  | .list =>
    let items ← itemsOf id
    for item in items do
      let _ ← visit item
    setMeaning id (.list items)
  | .pairs => setMeaning id (.pairs (← (← itemsOf id).mapM readPair))
  | .map | .set =>
    let _ ← entriesOf id
    flatten (merges + 1) 0 id []
    let entries ← readEntries [] (← entriesOf id)
    setMeaning id (if kind = .map then .map entries else .set (entries.map (·.1)))

/-- Give all waiting collections their content.  The fuel bounds their number. -/
def completeAll (merges : Nat) : Nat → Read Unit
  | 0 => return
  | fuel + 1 => do
    match (← get).waiting with
    | [] => return
    | (id, kind) :: waiting =>
      modify fun reading ↦ { reading with waiting }
      complete merges id kind
      completeAll merges fuel

end Read

/-! ## Settings -/

/-- The collection that a meaning is. -/
def Meaning.collection : Meaning → Collection
  | map _ => .map
  | set _ => .set
  | _ => .list

/-- The setting of a node, inside of other nodes.  A node inside of itself is cut.  The fuel bounds
the nesting. -/
def settingOf (meanings : Meanings) : Nat → List NodeId → NodeId → Setting
  | 0, _, _ => .null
  | fuel + 1, around, id =>
    match meanings.of? id with
    | none => .null
    | some (.scalar value) => value
    | some meaning =>
      if around.contains id then .enclosing meaning.collection
      else
        let inner := settingOf meanings fuel (id :: around)
        match meaning with
        | .scalar value => value
        | .list items => .list (items.map inner)
        | .pairs items => .list (items.map fun item ↦ .pair (inner item.1) (inner item.2))
        | .map entries => .map (entries.map fun entry ↦ (inner entry.1, inner entry.2))
        | .set members => .set (members.map inner)

/-- The setting of a document; nothing when the document is empty. -/
def Graph.setting (graph : Graph) : Except Refusal Setting :=
  match graph.root with
  | none => .ok .null
  | some root => do
    let read : Read Unit := do
      let _ ← Read.visit root
      Read.completeAll (Read.mergeCount graph.nodes) (graph.nodes.size + 1)
    let meanings := Array.replicate graph.nodes.size none
    let (_, reading) ← read.run { nodes := graph.nodes, meanings }
    return settingOf reading.meanings (graph.nodes.size + 1) [] root

/-- The setting of a text that holds at most one document. -/
def parse (text : List Char) : Except Refusal Setting := do (← Graph.ofText text).setting

end AddonUpkeep.Yaml
