import AddonUpkeep.Addon.Summary

/-!
# Reports

What the command line prints: texts with markup, and a table with a row for every addon that was
named.
-/

namespace AddonUpkeep.Cli

/-- A printed item. -/
inductive Item where
  | text (markup : String)
  | table (title : String) (headers : List String) (rows : List (List String))
  deriving DecidableEq, Repr

/-- The markups in an item. -/
def Item.markups : Item → List String
  | text markup => [markup]
  | table title headers rows => title :: headers ++ rows.flatten

/-- How an addon stands. -/
inductive Status where
  | failed
  | outdated
  | ok
  deriving DecidableEq, Repr

/-- The markup of a status. -/
def Status.markup : Status → String
  | failed => "[red]failed[/red]"
  | outdated => "[yellow]outdated[/yellow]"
  | ok => "[green]ok[/green]"

variable {α : Type}

/-- How an entry stands, given which values call for an update. -/
def statusOf (calls : α → Bool) (entry : Entry α) : Status :=
  match entry.value? with
  | none => .failed
  | some value => if calls value then .outdated else .ok

/-- The row of an entry. -/
def rowOf (calls : α → Bool) (message : Result α → String) (entry : String × Entry α) :
    List String :=
  [entry.1, (statusOf calls entry.2).markup, entry.2.message message]

/-- The headers of the table. -/
def headers : List String := ["Addon", "Status", "Message"]

/-- The table of a summary and its message. -/
def render (title : String) (calls : α → Bool) (message : Result α → String)
    (summary : Summary α) : List Item :=
  [.table title headers (summary.entries.map (rowOf calls message)), .text summary.message]

/-- The items for a check. -/
def renderCheck (version : String) (summary : Summary Bool) : List Item :=
  render s!"Addons for control plane {version}" (!·) Result.checkMessage summary

/-- The hint that nothing was changed yet. -/
def approvalHint : Item :=
  .text ("[yellow]no changes were applied, run again with '--approve' to apply " ++
    "the changes[/yellow]")

/-- The items for an update.  A hint follows when changes are pending. -/
def renderUpdate (version : String) (summary : Summary Outcome) : List Item :=
  render s!"Addon updates for control plane {version}" Outcome.isPending Result.runMessage
    summary ++ if summary.flagged.isEmpty then [] else [approvalHint]

/-- The message of a fault of the configuration. -/
def configurationFault (fault : Fault) : Item :=
  .text s!"[red]Configuration error: {fault.message}[/red]"

/-- The message of a fault at work. -/
def workFault (fault : Fault) : Item := .text s!"[red]Error: {fault.message}[/red]"

end AddonUpkeep.Cli
