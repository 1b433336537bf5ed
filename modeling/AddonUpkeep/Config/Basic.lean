import AddonUpkeep.Cluster.Host
import AddonUpkeep.Config.AddonFile
import AddonUpkeep.Config.Environment

/-!
# Configuration

What the program is told by its caller, the environment, an environment file and the file of addon
settings.  Cluster access and the file of addon settings are the caller's choice first; the log
level and the timeout are the environment's.
-/

namespace AddonUpkeep

open AddonUpkeep.Text AddonUpkeep.Number

/-- A configuration. -/
structure Config where
  kubeconfig : Option String := none
  context : Option String := none
  kubectlTimeout : Int := 30
  addonsFile : Option String := none
  addonSettings : AddonSettings := []
  logLevel : String := "info"

/-- What surrounds the program: variables, the text of an environment file, files, accounts, the
host that it runs on, and which markups the console can show. -/
structure Surroundings where
  environment : Environment
  envFile : Option String := none
  files : FileTree := []
  accounts : Accounts := {}
  host : Host := .usual
  shows : String → Bool := fun _ ↦ true

namespace Config

/-- The variable that names the kubeconfig file. -/
def kubeconfigVariable : String := "KUBECONFIG"

/-- The variable that names the context. -/
def contextVariable : String := "EKSADDONS_CONTEXT"

/-- The variable that names the file of addon settings. -/
def addonsFileVariable : String := "EKSADDONS_ADDONS_FILE"

/-- The variable that tells the log level. -/
def logLevelVariable : String := "LOG_LEVEL"

/-- The variable that tells the timeout. -/
def timeoutVariable : String := "EKSADDONS_KUBECTL_TIMEOUT"

/-- The variable that tells the home of the user. -/
def homeVariable : String := "HOME"

/-- The text that is given, unless it is empty. -/
def given? (text : Option String) : Option String := text.filter (!·.isEmpty)

/-- The timeout of a variable, or the one given when the variable is not set. -/
def timeoutOf (given : Int) : Option String → Except Fault Int
  | none => .ok given
  | some text => match readInteger 10 text.toList with
    | .ok timeout => .ok timeout
    | .error _ => .error (.config (.timeoutNoInteger text))

/-- The settings of addons, which are read from the file when there is one and none are given. -/
def settingsOf (files : FileTree) (addonsFile : Option String) (given : AddonSettings) :
    Except Fault AddonSettings :=
  match given? addonsFile with
  | some path => if given.isEmpty then AddonFile.load files (.ofString path) else .ok given
  | none => .ok given

/-- The configuration of given values in an environment. -/
def inEnvironment (given : Config) (environment : Environment) (files : FileTree) :
    Except Fault Config := do
  let addonsFile := (given? given.addonsFile).or (environment.get? addonsFileVariable)
  let kubectlTimeout ← timeoutOf given.kubectlTimeout (environment.get? timeoutVariable)
  let addonSettings ← settingsOf files addonsFile given.addonSettings
  return {
    kubeconfig := (given? given.kubeconfig).or (environment.get? kubeconfigVariable)
    context := (given? given.context).or (environment.get? contextVariable)
    kubectlTimeout
    addonsFile
    addonSettings
    logLevel := lower ((environment.get? logLevelVariable).getD given.logLevel) }

/-- The configuration of given values, and the environment that it was made in. -/
def load (given : Config) (surroundings : Surroundings) : Except Fault (Config × Environment) := do
  let environment ← surroundings.environment.withFile surroundings.envFile
  return (← given.inEnvironment environment surroundings.files, environment)

/-- Check that the log level is known and the timeout positive. -/
def validate (config : Config) : Except Fault Unit :=
  if !logLevelNames.contains config.logLevel then
    .error (.config (.unknownLogLevel config.logLevel))
  else if config.kubectlTimeout ≤ 0 then
    .error (.config (.timeoutNotPositive config.kubectlTimeout))
  else .ok ()

/-- The path of the kubeconfig file, if one is configured. -/
def kubeconfigPath (config : Config) (environment : Environment) (accounts : Accounts) :
    Except Fault (Option Path) :=
  (given? config.kubeconfig).mapM fun text ↦
    (Path.ofString text).expandHome (environment.get? homeVariable) accounts

end Config

end AddonUpkeep
