import AddonUpkeep.Cli.Arguments
import AddonUpkeep.Cli.Report
import AddonUpkeep.Cluster.Kubectl
import AddonUpkeep.Config.Basic

/-!
# Running a command line

A command line is read, the configuration is made, and the command is run on the cluster behind
kubectl.  The exit code is 2 when something failed and 1 when a check finds an addon outdated.
Without approval an update only tells what it would do.
-/

namespace AddonUpkeep.Cli

open AddonUpkeep.Text

/-- The names in a list with commas between them.  Blank names do not count. -/
def addonNames (list : String) : List String :=
  ((pieces ',' list.toList).map fun name ↦ String.ofList (trimBlanks name)).filter (!·.isEmpty)

/-- How a run ends: with an exit code, because the command line asks for no command, or with a fault
that nobody foresaw. -/
inductive Ending where
  | code (number : Nat)
  | stopped (stop : Stop)
  | escaped (fault : Fault)

/-- The exit code of a run that failed. -/
def failureCode : Nat := 2

/-- The exit code of a check. -/
def checkCode (summary : Summary Bool) : Nat :=
  if !summary.isSuccess then failureCode else if summary.flagged.isEmpty then 0 else 1

/-- The exit code of an update. -/
def updateCode (summary : Summary Outcome) : Nat := if summary.isSuccess then 0 else failureCode

/-- What is left of a run: what was printed, the log, the runs of kubectl and the ending. -/
structure Record where
  items : List Item := []
  log : Log := []
  transcript : Kubectl.Transcript
  ending : Ending

/-- The configuration that arguments ask for. -/
def Arguments.config (arguments : Arguments) : Config where
  kubeconfig := arguments.kubeconfig.bind Value.text?
  context := arguments.context.bind Value.text?
  addonsFile := arguments.addonsFile.bind Value.text?

/-- The log level is the lowest one when the arguments ask for more output. -/
def adjust (arguments : Arguments) (config : Config) : Config :=
  if arguments.verbose then { config with logLevel := "debug" } else config

/-- The configuration of a run, which is valid, with its environment. -/
def configure (arguments : Arguments) (surroundings : Surroundings) :
    Except Fault (Config × Environment) := do
  let (config, environment) ← arguments.config.load surroundings
  let config := adjust arguments config
  config.validate
  return (config, environment)

/-- The control-plane version that arguments name.  An empty value is shown as an empty list. -/
def Arguments.version (arguments : Arguments) : String :=
  ((arguments.controlPlaneVersion.bind Value.text?).getD "[]")

/-- The access to the cluster that a configuration describes. -/
def accessOf (config : Config) (kubeconfig : Option Path) : Kubectl.Access where
  kubeconfig := kubeconfig.map Path.text
  context := config.context
  timeout := config.kubectlTimeout

/-- Run a command on the cluster.  The list of names must be a text. -/
def runCommand (command : Command) (arguments : Arguments) (config : Config)
    (kubeconfig : Option Path) : Task Kubectl.Transcript (List Item × Nat) := do
  Kubectl.checkClient
  let cluster := Kubectl.cluster (accessOf config kubeconfig)
  let settings := Catalog.ofSettings config.addonSettings
  match arguments.addons with
  | .empty => Task.fail (.unforeseen .wrongShape)
  | .text list =>
    let names := addonNames list
    let version := arguments.version
    match command with
    | .check =>
      let summary ← ExceptT.lift (Summary.check settings cluster names version)
      return (renderCheck version summary, checkCode summary)
    | .update =>
      let summary ← ExceptT.lift
        (Summary.update settings cluster names version (!arguments.approve))
      return (renderUpdate version summary, updateCode summary)

/-- The kubeconfig file is told to the log. -/
def noteKubeconfig (kubeconfig : Option Path) : Task Kubectl.Transcript Unit :=
  let shown := (kubeconfig.map Path.text).getD "<default>"
  Task.log .debug s!"Using kubeconfig {shown}"

/-- Work with a valid configuration. -/
def work (command : Command) (arguments : Arguments) (config : Config) (environment : Environment)
    (accounts : Accounts) : Task Kubectl.Transcript (List Item × Nat) := do
  let kubeconfig ← Task.ofExcept (config.kubeconfigPath environment accounts)
  noteKubeconfig kubeconfig
  runCommand command arguments config kubeconfig

/-- The record of work that is done. -/
def Record.ofWork (session : Session Kubectl.Transcript) :
    Except Fault (List Item × Nat) → Record
  | .ok (items, code) =>
    { items, log := session.log, transcript := session.cluster, ending := .code code }
  | .error fault =>
    if fault.isForeseen then
      { items := [workFault fault], log := session.log, transcript := session.cluster
        ending := .code failureCode }
    else { log := session.log, transcript := session.cluster, ending := .escaped fault }

/-- The level of a configuration. -/
def levelOf (config : Config) : LogLevel := (LogLevel.ofName? config.logLevel).getD .info

/-- The session that a run starts from. -/
def startOf (config : Config) (surroundings : Surroundings) (replies : List Kubectl.Reply) :
    Session Kubectl.Transcript where
  cluster := { replies }
  host := { surroundings.host with level := levelOf config }

/-- The record with what the console shows of it.  An item with a markup that it cannot show ends
the run. -/
def Record.printed (shows : String → Bool) (record : Record) : Record :=
  if record.items.all (·.markups.all shows) then record
  else { record with
    items := record.items.takeWhile (·.markups.all shows)
    ending := .escaped (.unforeseen .markup) }

/-- Run a command line up to what it prints at its end.  The runs of kubectl take the given
replies. -/
def carryOut (words : List String) (surroundings : Surroundings) (replies : List Kubectl.Reply) :
    Record :=
  let transcript : Kubectl.Transcript := { replies }
  match parse words with
  | .error stop => { transcript, ending := .stopped stop }
  | .ok (command, arguments) =>
    match configure arguments surroundings with
    | .error fault =>
      if fault.isForeseen then
        { items := [configurationFault fault], transcript, ending := .code failureCode }
      else { transcript, ending := .escaped fault }
    | .ok (config, environment) =>
      let (outcome, session) := (work command arguments config environment
        surroundings.accounts).run.run (startOf config surroundings replies)
      Record.ofWork session outcome

/-- Run a command line. -/
def run (words : List String) (surroundings : Surroundings) (replies : List Kubectl.Reply) :
    Record :=
  (carryOut words surroundings replies).printed surroundings.shows

end AddonUpkeep.Cli
