import AddonUpkeep.Addon.Outcome
import AddonUpkeep.Cluster.Task
import AddonUpkeep.Json.Printer
import AddonUpkeep.Text.Lowercase

/-!
# Addons

An addon can tell whether it matches a control-plane version, and bring itself to match it.  Its
check and its run turn both into a result that never fails: a fault becomes part of the result and
an entry of the log.
-/

namespace AddonUpkeep

open AddonUpkeep.Text

/-- The result of one addon: its name, and a value or the message of a fault. -/
structure Result (α : Type) where
  addon : String
  value : Except String α

/-- An addon on a cluster. -/
structure Addon (σ : Type) where
  name : String
  isUpToDate : (version : String) → Task σ Bool
  apply : (version : String) → (dryRun : Bool) → Task σ Outcome

namespace Addon

variable {σ α : Type}

/-- The name of an addon that is called after its kind: the kind without the word for addon, in
lower case. -/
def nameOfKind (kind : String) : String := lower (withoutPart "Addon" kind)

/-- Write an entry of the addon to the log. -/
def note (addon : String) (level : LogLevel) (text : String) : Task σ Unit :=
  Task.log level s!"[{addon}] {text}"

/-- Write a document of the addon to the log, unless the host cannot. -/
def noteDocument (addon : String) (label : String) (document : Json) : Task σ Unit := do
  let host ← Task.host
  Task.check (host.noteFault? document)
  note addon .debug s!"{label} = \\\n{document.indented}"

/-- The outcome of a task as a result.  A fault is logged with the given words before it. -/
def report (addon : String) (complaint : String) (task : Task σ α) : Work σ (Result α) := do
  match ← task.outcome with
  | .ok value => return ⟨addon, .ok value⟩
  | .error fault =>
    Work.log .error s!"[{addon}] {complaint}: {fault.message}"
    return ⟨addon, .error fault.message⟩

/-- Check whether the addon matches the version. -/
def check (addon : Addon σ) (version : String) : Work σ (Result Bool) :=
  report addon.name "Check failed" (addon.isUpToDate version)

/-- The word for what a run does. -/
def runWord (dryRun : Bool) : String := if dryRun then "plan" else "update"

/-- Bring the addon to match the version, or tell what a run would do. -/
def run (addon : Addon σ) (version : String) (dryRun : Bool) : Work σ (Result Outcome) := do
  let word := runWord dryRun
  Work.log .info s!"[{addon.name}] Starting {word} for control-plane version {version}"
  report addon.name "Update failed" (addon.apply version dryRun)

end Addon

namespace Result

variable {α : Type}

/-- The addon gave a value. -/
def isSuccess (result : Result α) : Bool := result.value.isOk

/-- The message of a check. -/
def checkMessage (result : Result Bool) : String :=
  match result.value with
  | .ok true => s!"{result.addon} is up-to-date"
  | .ok false => s!"{result.addon} is not up-to-date"
  | .error message => s!"{result.addon} check failed: {message}"

/-- The message of a run. -/
def runMessage (result : Result Outcome) : String :=
  match result.value with
  | .ok .noChangeNeeded => s!"{result.addon} is already up-to-date"
  | .ok .applied => s!"{result.addon} updated successfully"
  | .ok .changePending => s!"{result.addon} is not up-to-date (no changes applied)"
  | .error message => s!"{result.addon} update failed: {message}"

end Result

end AddonUpkeep
