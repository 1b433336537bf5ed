import AddonUpkeep.Cli.Scenario
import AddonUpkeep.Json.Parser

/-!
# The program

Runs its command line in the scenario that standard input describes, or in an empty one, and prints
what the run prints.
-/

open AddonUpkeep Cli

/-- The lines of a printed item. -/
def itemLines : Item → List String
  | .text markup => [markup]
  | .table title headers rows =>
    title :: (headers :: rows).map fun cells ↦ "  ".intercalate cells

/-- The command line as the program is called. -/
def usageLine : String :=
  "usage: eksaddons [-h] [--kubeconfig KUBECONFIG] [--context CONTEXT] [--config ADDONS_FILE] " ++
    "[-v] [--version] \x7bcheck,update\x7d ..."

/-- Print how a run ended, and give its exit code. -/
def finish : Ending → IO UInt32
  | .code number => return number.toUInt32
  | .stopped .help => do
    IO.println usageLine
    return 0
  | .stopped .version => do
    IO.print versionText
    return 0
  | .stopped (.usage problem) => do
    IO.eprintln usageLine
    IO.eprintln s!"eksaddons: error: {problem.message}"
    return 2
  | .escaped fault => do
    IO.eprintln fault.message
    return 1

/-- Run the command line. -/
def main (words : List String) : IO UInt32 := do
  let input ← (← IO.getStdin).readToEnd
  let document := (Json.parse input).toOption.getD (.obj [])
  let record := Scenario.run words document
  for entry in record.log do
    IO.println entry.text
  for item in record.items do
    for line in itemLines item do
      IO.println line
  finish record.ending
