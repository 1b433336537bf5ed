import AddonUpkeep.Cli.Run
import AddonUpkeep.Json.Printer

/-!
# Scenarios

A document that describes the surroundings of a run and the replies of kubectl.  `env` holds the
variables, `dotenv` the text of an environment file, `files` the contents of files, and `replies`
one object for each run of kubectl: its `code`, and its `out` and `err`; with `json` the output is a
document, with `echo` it is the file that was sent, and `raise` tells that there was no end.
-/

namespace AddonUpkeep.Cli.Scenario

/-- A text of a document, or a default. -/
def textOr (document : Json) (name default : String) : String :=
  match document.field? name with
  | some (.str text) => text
  | _ => default

/-- The fields of an object that are texts. -/
def texts (document : Json) (name : String) : List (String × String) :=
  match document.field? name with
  | some (.obj fields) => fields.filterMap fun
    | (name, .str text) => some (name, text)
    | _ => none
  | _ => []

/-- The home of the user when a scenario names none. -/
def defaultHome : String := "/home/tester"

/-- The variables of a scenario, among which there is always a home. -/
def environment (document : Json) : Environment :=
  let given : Environment := texts document "env"
  if (given.get? Config.homeVariable).isSome then given
  else given.put Config.homeVariable defaultHome

/-- The accounts of a scenario: the one of the administrator, who runs the program. -/
def accounts : Accounts := { own := "/root", homes := [("root", "/root")] }

/-- The surroundings of a scenario. -/
def surroundings (document : Json) : Surroundings where
  environment := environment document
  envFile := match document.field? "dotenv" with
    | some (.str text) => some text
    | _ => none
  files := .ofFiles (texts document "files")
  accounts := accounts

/-- What a run writes to its standard output. -/
def output (document : Json) : Kubectl.Output :=
  match document.field? "json", document.field? "echo" with
  | some content, _ => .text content.line
  | none, some (.bool true) => .echo
  | none, _ => .text (textOr document "out" "")

/-- A reply of kubectl. -/
def reply (document : Json) : Kubectl.Reply :=
  match textOr document "raise" "" with
  | "timeout" => .timedOut
  | "missing" => .missing
  | _ =>
    let code := match document.field? "code" with
      | some (.int code) => code
      | _ => 0
    .finished code (output document) (textOr document "err" "")

/-- The replies of a scenario. -/
def replies (document : Json) : List Kubectl.Reply :=
  match document.field? "replies" with
  | some (.arr items) => items.map reply
  | _ => []

/-- Run a command line in a scenario. -/
def run (words : List String) (document : Json) : Record :=
  Cli.run words (surroundings document) (replies document)

end AddonUpkeep.Cli.Scenario
