import AddonUpkeep.Addon.Catalog

/-!
# Summaries over several addons

Addons are named in any order and any number of times; each is handled once.  Names that stand for
no addon are listed as failed.  One failure does not stop the others.
-/

namespace AddonUpkeep

open AddonUpkeep.Text

/-- What became of a name: it stands for no addon, or its addon has a result. -/
inductive Entry (α : Type) where
  | unknown (name : String) (error : String)
  | known (result : Result α)

namespace Entry

variable {α : Type}

/-- The value of a result. -/
def value? : Entry α → Option α
  | unknown _ _ => none
  | known result => result.value.toOption

/-- The entry is a success. -/
def isSuccess (entry : Entry α) : Bool := entry.value?.isSome

/-- The message of an entry, given the one for results. -/
def message (ofResult : Result α → String) : Entry α → String
  | unknown name _ => s!"Invalid addon name: {name}"
  | known result => ofResult result

end Entry

/-- The entries by name in the order in which they were settled, the names that failed, the names
that call for an update, and a message. -/
structure Summary (α : Type) where
  entries : Table String (Entry α)
  failed : List String
  flagged : List String
  message : String

namespace Summary

variable {σ α : Type}

/-- No name failed. -/
def isSuccess (summary : Summary α) : Bool := summary.failed.isEmpty

/-- The summary when no addon is named. -/
def nothing : Summary α := ⟨[], [], [], "No addons specified"⟩

/-- The addons that names stand for, each once, and the entries and names of the others. -/
structure Resolution (α : Type) where
  kinds : List AddonKind := []
  entries : Table String (Entry α) := []
  failed : List String := []

/-- Resolve one more name. -/
def Resolution.add (resolution : Resolution α) (name : String) : Work σ (Resolution α) := do
  match Catalog.identify name with
  | .ok kind =>
    if resolution.kinds.contains kind then return resolution
    else return { resolution with kinds := resolution.kinds ++ [kind] }
  | .error fault =>
    Work.log .warning fault.message
    return { resolution with
      entries := resolution.entries.put name (.unknown name fault.message)
      failed := resolution.failed ++ [name] }

/-- Resolve names from the first to the last. -/
def resolve (names : List String) : Work σ (Resolution α) := names.foldlM Resolution.add {}

/-- Add the result of an addon. -/
def Resolution.settle (resolution : Resolution α) (result : Result α) : Resolution α :=
  { resolution with
    entries := resolution.entries.put result.addon (.known result)
    failed := if result.isSuccess then resolution.failed
      else resolution.failed ++ [result.addon] }

/-- A part of a message that lists names, when there are any. -/
def listing (names : List String) (words : String) : String :=
  let listed := join ", " names
  if names.isEmpty then "" else s!", {names.length} {words}: {listed}"

/-- The names whose value calls for an update. -/
def flaggedNames (calls : α → Bool) (entries : Table String (Entry α)) : List String :=
  (entries.filter fun entry ↦ entry.2.value?.any calls).map (·.1)

/-- Check the addons of some names, one after the other. -/
def check (settings : Table String (Option Settings)) (cluster : Cluster σ) (names : List String)
    (version : String) : Work σ (Summary Bool) := do
  if names.isEmpty then return nothing
  else
    let resolution ← resolve names
    let settled ← resolution.kinds.foldlM (fun settled kind ↦ do
      return settled.settle (← (Catalog.addon settings cluster kind).check version)) resolution
    let outdated := flaggedNames (!·) settled.entries
    let current := (settled.entries.filter fun entry ↦ entry.2.value?.any id).length
    let total := resolution.kinds.length
    let others := listing outdated "outdated" ++ listing settled.failed "failed"
    return ⟨settled.entries, settled.failed, outdated,
      s!"Addons: {current}/{total} up-to-date{others}"⟩

/-- Update one addon. -/
def updateOne (settings : Table String (Option Settings)) (cluster : Cluster σ) (version : String)
    (dryRun : Bool) (settled : Resolution Outcome) (kind : AddonKind) :
    Work σ (Resolution Outcome) := do
  Work.log .info s!"Processing addon: {kind.name}"
  let result ← (Catalog.addon settings cluster kind).run version dryRun
  if !result.isSuccess then
    Work.log .warning s!"Addon '{result.addon}' update failed (continuing with others)"
  return settled.settle result

/-- Update the addons of some names, one after the other. -/
def update (settings : Table String (Option Settings)) (cluster : Cluster σ) (names : List String)
    (version : String) (dryRun : Bool) : Work σ (Summary Outcome) := do
  if names.isEmpty then return nothing
  else
    let resolution ← resolve names
    let total := resolution.kinds.length
    let listed := join ", " (resolution.kinds.map AddonKind.name)
    Work.log .info s!"Updating {total} addon(s) to control-plane version {version}: {listed}"
    let settled ← resolution.kinds.foldlM (updateOne settings cluster version dryRun) resolution
    let pending := flaggedNames Outcome.isPending settled.entries
    let succeeded := (settled.entries.filter fun entry ↦ entry.2.isSuccess).length
    let others := listing pending "with pending changes" ++ listing settled.failed "failed"
    return ⟨settled.entries, settled.failed, pending,
      s!"Addons: {succeeded}/{total} succeeded{others}"⟩

end Summary

end AddonUpkeep
