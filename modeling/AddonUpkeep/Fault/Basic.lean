import AddonUpkeep.Fault.Kind
import AddonUpkeep.Json.Shape
import AddonUpkeep.Setting.Basic
import AddonUpkeep.Version.Reader

/-!
# Faults

What can go wrong, by cause.  A fault has a kind and one wording.
-/

namespace AddonUpkeep

open AddonUpkeep.Text

/-- What is wrong with the configuration. -/
inductive ConfigProblem where
  | timeoutNoInteger (given : String)
  | timeoutNotPositive (given : Int)
  | unknownLogLevel (given : String)
  | fileMissing (path : String)
  | fileMalformed (path : String)
  | fileNoMapping (path : String)
  | settingsNoMapping (name path : String)
  deriving DecidableEq, Repr

/-- What is wrong with a cluster command. -/
inductive CommandProblem where
  | unusable
  | notInstalled
  | checkTimedOut
  | timedOut (seconds : Int)
  | notFound
  | getFailed (name scope output : String)
  | replaceFailed (name scope output : String)
  | unreadable (reason : String)
  | noObject
  deriving DecidableEq, Repr

/-- What is wrong with a value in a settings file. -/
inductive ValueProblem where
  | integer (base : Nat) (given : String)
  | float (given : String)
  | calendar (problem : CalendarProblem)
  | codePoint
  | environmentName
  | nullByte
  | longText
  deriving DecidableEq, Repr

/-- What went wrong. -/
inductive Fault where
  | version (problem : VersionProblem)
  | imageForm (reference : String)
  | workloadImageForm (reference : String) (workload : Setting)
  | noContainers (workload : String)
  | resourceMissing (name scope : String)
  | resourceConflict (name scope output : String)
  | command (problem : CommandProblem)
  | config (problem : ConfigProblem)
  | value (problem : ValueProblem)
  | unknownAddon (name available : String)
  | unknownOutcome (given : Setting)
  | longInteger (digits : Nat)
  | noHome
  | shape (problem : ShapeProblem)
  | unforeseen (kind : FaultKind)
  | tooDeep (activity : String)
  | reported (kind : FaultKind) (message : String)

/-- The log levels that a configuration can name. -/
def logLevelNames : List String := ["debug", "info", "warning", "error", "critical"]

/-- The longest literal that a message shows of a malformed integer. -/
def shownLiteral : Nat := 200

/-- The wording of a configuration problem. -/
def ConfigProblem.message : ConfigProblem → String
  | timeoutNoInteger given =>
    let shown := quoted given
    s!"EKSADDONS_KUBECTL_TIMEOUT must be an integer, got {shown}"
  | timeoutNotPositive given => s!"kubectl timeout must be positive, got {given}"
  | unknownLogLevel given =>
    let names := join ", " logLevelNames
    s!"Invalid log level: {given}. Must be one of: {names}"
  | fileMissing path => s!"Addon configuration file not found: {path}"
  | fileMalformed path => s!"Invalid YAML in {path}"
  | fileNoMapping path =>
    s!"Addon configuration in {path} must be a mapping of addon name to settings"
  | settingsNoMapping name path => s!"Settings for addon '{name}' in {path} must be a mapping"

/-- The kind of a configuration problem. -/
def ConfigProblem.kind : ConfigProblem → FaultKind
  | timeoutNoInteger _ | timeoutNotPositive _ | unknownLogLevel _ => .configuration
  | fileMissing _ => .missingFile
  | fileMalformed _ | fileNoMapping _ | settingsNoMapping _ _ => .invalidFile

/-- The wording of a command problem. -/
def CommandProblem.message : CommandProblem → String
  | unusable => "kubectl CLI is not available or not working correctly"
  | notInstalled =>
    "kubectl CLI not found. Please install kubectl: " ++
      "https://kubernetes.io/docs/tasks/tools/install-kubectl/"
  | checkTimedOut => "kubectl version check timed out"
  | timedOut seconds => s!"kubectl command timed out after {seconds} seconds"
  | notFound => "kubectl CLI not found in PATH"
  | getFailed name scope output =>
    s!"Failed to get daemonset/{name} in namespace '{scope}': {output}"
  | replaceFailed name scope output =>
    s!"Failed to update daemonset/{name} in namespace '{scope}': {output}"
  | unreadable reason => s!"Failed to parse kubectl output as JSON: {reason}"
  | noObject => "Unexpected kubectl output: expected a JSON object"

/-- The wording of a problem with a value. -/
def ValueProblem.message : ValueProblem → String
  | integer base given =>
    let shown := String.ofList ((quoted given).toList.take shownLiteral)
    s!"invalid literal for int() with base {base}: {shown}"
  | float given =>
    let shown := quoted given
    s!"could not convert string to float: {shown}"
  | calendar problem => problem.message
  | codePoint => "chr() arg not in range(0x110000)"
  | environmentName => "illegal environment variable name"
  | nullByte => "embedded null byte"
  | longText =>
    "Exceeds the limit (4300 digits) for integer string conversion; " ++
      "use sys.set_int_max_str_digits() to increase the limit"

/-- The wording of a version problem. -/
def VersionProblem.message : VersionProblem → String
  | empty => "Version cannot be empty"
  | invalid given read =>
    let given := quoted given
    let read := quoted read
    s!"Invalid version {given}: Invalid version: {read}"
  | longNumber digits =>
    "Exceeds the limit (4300 digits) for integer string conversion: " ++
      s!"value has {digits} digits; use sys.set_int_max_str_digits() to increase the limit"

namespace Fault

/-- The wording of a fault. -/
def message : Fault → String
  | version problem => problem.message
  | imageForm reference =>
    let shown := quoted reference
    s!"unexpected image format {shown}"
  | workloadImageForm reference workload =>
    let shown := quoted reference
    s!"unexpected image format {shown} for {workload.literal}"
  | noContainers workload => s!"{workload} has 0 containers, expected at least 1"
  | resourceMissing name scope => s!"DaemonSet '{name}' not found in namespace '{scope}'"
  | resourceConflict name scope output =>
    s!"Conflict updating daemonset/{name} in namespace '{scope}': {output}"
  | command problem => problem.message
  | config problem => problem.message
  | value problem => problem.message
  | unknownAddon name available => s!"Unknown addon: '{name}'. Available addons: {available}"
  | unknownOutcome given => s!"{given.literal} is not a valid UpdateResult"
  | longInteger digits => (VersionProblem.longNumber digits).message
  | noHome => "Could not determine home directory."
  | shape problem => problem.message
  | unforeseen _ => ""
  | tooDeep activity => "maximum recursion depth exceeded" ++ activity
  | reported _ message => message

/-- The kind of a fault. -/
def kind : Fault → FaultKind
  | version (.longNumber _) => .badValue
  | version _ => .version
  | imageForm _ | workloadImageForm _ _ => .imageForm
  | noContainers _ => .integrity
  | resourceMissing _ _ => .missingResource
  | resourceConflict _ _ _ => .conflict
  | command _ => .command
  | config problem => problem.kind
  | value _ | unknownAddon _ _ | unknownOutcome _ | longInteger _ => .badValue
  | noHome => .runtime
  | shape (.hasNoFields _) | shape (.hasNoPieces _) => .wrongShape
  | shape .hasNoFirst => .missingKey
  | shape _ => .wrongType
  | unforeseen kind => kind
  | tooDeep _ => .depth
  | reported kind _ => kind

/-- A fault of the tree, which the command line reports and does not pass on. -/
def isForeseen (fault : Fault) : Bool := fault.kind.isForeseen

end Fault

/-- A setting without a text cannot be shown. -/
def Setting.checkText (setting : Setting) : Except Fault Unit :=
  if setting.hasText then .ok () else .error (.value .longText)

theorem Setting.checkText_eq_ok_iff {setting : Setting} :
    setting.checkText = .ok () ↔ setting.hasText = true := by
  unfold checkText
  split
  · next h => exact iff_of_true rfl h
  · next h => exact iff_of_false nofun h

theorem Setting.checkText_cases (setting : Setting) :
    setting.checkText = .ok () ∨ setting.checkText = .error (.value .longText) := by
  unfold checkText
  split
  · exact .inl rfl
  · exact .inr rfl

/-- A fault that shows a setting is a fault, with or without the text. -/
theorem Setting.checkText_error {α : Type} (setting : Setting) (fault : Fault) :
    ∃ other, (do setting.checkText; .error fault : Except Fault α) = .error other := by
  rcases setting.checkText_cases with h | h
  · exact ⟨fault, by rw [h]; rfl⟩
  · exact ⟨_, by rw [h]; rfl⟩

@[simp]
theorem Setting.checkText_str (text : String) : (Setting.str text).checkText = .ok () := rfl

end AddonUpkeep
