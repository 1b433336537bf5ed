import AddonUpkeep.Cluster.Task

/-!
# A cluster in memory

A cluster that holds DaemonSets by namespace and name.  It records what is read and replaced, and it
can be told to fail.  It gives and takes copies, as far as its host has room for them.
-/

namespace AddonUpkeep

/-- The place of a DaemonSet. -/
structure Place where
  scope : Setting
  name : Setting

namespace Place

/-- Places are the same when namespace and name are. -/
def isSame (left right : Place) : Bool :=
  left.scope.isSameKey right.scope && left.name.isSameKey right.name

instance : BEq Place := ⟨isSame⟩

/-- The place that a DaemonSet names in its metadata. -/
def ofDaemonSet (daemonSet : Json) : Place :=
  let metadata := (daemonSet.field? "metadata").getD .null
  let entry (name : String) : Setting := .ofJson ((metadata.field? name).getD .null)
  ⟨entry "namespace", entry "name"⟩

end Place

/-- The state of a cluster in memory. -/
structure Memory where
  store : Table Place Json := []
  getFault : Option Fault := none
  updateFault : Option Fault := none
  reads : List (Setting × Setting) := []
  updates : List Json := []

namespace Memory

/-- Put a DaemonSet at its place. -/
def put (memory : Memory) (daemonSet : Json) : Memory :=
  { memory with store := memory.store.put (.ofDaemonSet daemonSet) daemonSet }

/-- Remove the DaemonSet at a place. -/
def delete (memory : Memory) (scope name : Setting) : Memory :=
  { memory with store := memory.store.erase ⟨scope, name⟩ }

/-- The memory that holds the given DaemonSets. -/
def ofList (daemonSets : List Json) : Memory := daemonSets.foldl put {}

/-- Both parts of a place have to be keys; the namespace is looked at first. -/
def checkKeys (scope name : Setting) : Task Memory Unit :=
  if !scope.isKey then Task.fail (.shape (.isNoKey scope.kindName))
  else if !name.isKey then Task.fail (.shape (.isNoKey name.kindName))
  else pure ()

/-- The calls between an operation of an addon and the copying of the DaemonSet that it reads. -/
def fetchCalls : Nat := 2

/-- The calls between an operation of an addon and the copying of the DaemonSet that it replaces. -/
def replaceCalls : Nat := 1

/-- Read a DaemonSet. -/
def fetch (name scope : Setting) : Task Memory Json := do
  Task.change fun memory ↦ { memory with reads := memory.reads ++ [(name, scope)] }
  let memory ← Task.cluster
  match memory.getFault with
  | some fault => Task.fail fault
  | none =>
    checkKeys scope name
    match memory.store.get? ⟨scope, name⟩ with
    | some daemonSet =>
      Task.check ((← Task.host).copyFault? fetchCalls daemonSet)
      return daemonSet
    | none =>
      Task.ofExcept name.checkText
      Task.ofExcept scope.checkText
      Task.fail (.resourceMissing name.text scope.text)

/-- Replace a DaemonSet. -/
def replace (daemonSet : Json) : Task Memory Json := do
  let memory ← Task.cluster
  match memory.updateFault with
  | some fault => Task.fail fault
  | none =>
    Task.check ((← Task.host).copyFault? replaceCalls daemonSet)
    Task.change fun memory ↦ { memory.put daemonSet with updates := memory.updates ++ [daemonSet] }
    return daemonSet

/-- The cluster in memory. -/
def cluster : Cluster Memory := ⟨fetch, replace⟩

end Memory

end AddonUpkeep
