import AddonUpkeep.Cluster.Task
import AddonUpkeep.Json.Parser
import AddonUpkeep.Json.Printer
import AddonUpkeep.Text.Blank

/-!
# A cluster behind kubectl

Every operation is one run of the command.  The runs are scripted: each takes the next of a list of
replies, and a reply may be that the system does not start the command.  What was run is recorded,
and so are the files that a run needs, from their writing to their removal.
-/

namespace AddonUpkeep.Kubectl

open AddonUpkeep.Text

/-- How the cluster is reached. -/
structure Access where
  kubeconfig : Option String := none
  context : Option String := none
  timeout : Int := 30
  deriving DecidableEq, Repr

/-- What a run writes to its standard output: a text, or the file that it was given, `null` when it
was given none. -/
inductive Output where
  | text (content : String)
  | echo
  deriving DecidableEq, Repr

/-- Why the system does not start a command that is there: an argument holds a null character, or
something else is wrong, such as arguments that are too long or a missing permission. -/
inductive StartProblem where
  | nullByte
  | system
  deriving DecidableEq, Repr

/-- The fault of a command that is not started. -/
def StartProblem.fault : StartProblem → Fault
  | nullByte => .value .nullByte
  | system => .unforeseen .system

/-- The reply to a run. -/
inductive Reply where
  | finished (code : Int) (output : Output) (errors : String)
  | timedOut
  | missing
  | refused (problem : StartProblem)
  deriving DecidableEq, Repr

/-- The reply when no other is left. -/
def Reply.silent : Reply := .finished 0 (.text "") ""

/-- A run of the command, with the content of the file that it was given. -/
structure Call where
  arguments : List String
  timeout : Int
  body : Option String
  deriving DecidableEq, Repr

/-- The replies to come, the runs so far and the files that are there, of which those have no
content whose writing broke off. -/
structure Transcript where
  replies : List Reply := []
  calls : List Call := []
  files : List (Option String) := []

/-- The end of a run. -/
structure Finished where
  code : Int
  output : String
  errors : String
  deriving DecidableEq, Repr

/-- Why a run has no end of its own. -/
inductive Interruption where
  | timedOut
  | missing
  | refused (problem : StartProblem)
  deriving DecidableEq, Repr

/-- The name that stands for the file of a run. -/
def fileName : String := "<file>"

/-- The end of a run by its reply. -/
def Reply.result (body : Option String) : Reply → Except Interruption Finished
  | finished code (.text content) errors => .ok ⟨code, content, errors⟩
  | finished code .echo errors => .ok ⟨code, body.getD "null", errors⟩
  | timedOut => .error .timedOut
  | missing => .error .missing
  | refused problem => .error (.refused problem)

/-- Run the command once. -/
def execute (call : Call) : Task Transcript (Except Interruption Finished) := do
  let transcript ← Task.cluster
  let reply := transcript.replies.headD .silent
  Task.change fun transcript ↦
    { transcript with replies := transcript.replies.tail, calls := transcript.calls ++ [call] }
  return reply.result call.body

/-- Check that the command can be run at all. -/
def checkClient : Task Transcript Unit := do
  match ← execute ⟨["kubectl", "version", "--client"], 10, none⟩ with
  | .error .missing => Task.fail (.command .notInstalled)
  | .error .timedOut => Task.fail (.command .checkTimedOut)
  | .error (.refused problem) => Task.fail problem.fault
  | .ok finished =>
    if finished.code ≠ 0 then Task.fail (.command .unusable)
    else
      let version := trim finished.output
      Task.log .debug s!"kubectl version: {version}"

/-- The start of every command: which cluster is meant. -/
def Access.options (access : Access) : List String :=
  (match access.kubeconfig with
    | some path => ["--kubeconfig", path]
    | none => []) ++
  (match access.context with
    | some context => if context.isEmpty then [] else ["--context", context]
    | none => [])

/-- The texts of arguments, when all are texts. -/
def argumentTexts (position : Nat) : List Setting → Except Fault (List String)
  | [] => .ok []
  | argument :: arguments =>
    match argument.asText? with
    | some text => (argumentTexts (position + 1) arguments).map (text :: ·)
    | none => .error (.shape (.isNoText position argument.kindName))

/-- Run a command on the cluster.  A command without a timeout of its own takes the one of the
access. -/
def run (access : Access) (arguments : List Setting) (timeout : Option Int) (body : Option String) :
    Task Transcript Finished := do
  let timeout := if timeout.getD 0 = 0 then access.timeout else timeout.getD 0
  let start := "kubectl" :: access.options
  let words ← Task.ofExcept (argumentTexts start.length arguments)
  let command := start ++ words
  let shown := join " " command
  Task.log .debug s!"Running kubectl command: {shown}"
  match ← execute ⟨command, timeout, body⟩ with
  | .ok finished => return finished
  | .error .timedOut => Task.fail (.command (.timedOut timeout))
  | .error .missing => Task.fail (.command .notFound)
  | .error (.refused problem) => Task.fail problem.fault

/-- The answer of the server that it has no DaemonSet of the name.  Other messages that something
was not found do not count. -/
def isMissing (output name : String) : Bool :=
  holds output "Error from server (NotFound)" && holds output s!"daemonsets.apps \"{name}\""

/-- The answer of the server that the object was changed in between. -/
def isConflict (output : String) : Bool :=
  holds output "Conflict" || holds output "the object has been modified"

/-- The message of a failed run: its error output, or its standard output when that is empty. -/
def Finished.complaint (finished : Finished) : String :=
  if finished.errors.isEmpty then finished.output else finished.errors

/-- The fault of a reply that could not be read. -/
def refusalFault (output : String) : Json.Refusal → Fault
  | .malformed problem place =>
    .command (.unreadable (Json.malformedMessage output.toList problem place))
  | .longInteger digits => .longInteger digits
  | .tooDeep true => .tooDeep " while decoding a JSON object from a unicode string"
  | .tooDeep false => .tooDeep " while decoding a JSON array from a unicode string"

/-- The object in the output of a run. -/
def readObject (output : String) : Except Fault Json :=
  match Json.parse output with
  | .ok (.obj fields) => .ok (.obj fields)
  | .ok _ => .error (.command .noObject)
  | .error refusal => .error (refusalFault output refusal)

/-- Read a DaemonSet. -/
def fetch (access : Access) (name scope : Setting) : Task Transcript Json := do
  let finished ← run access
    [.str "get", .str "daemonset", name, .str "-n", scope, .str "-o", .str "json"] none none
  if finished.code ≠ 0 then
    let complaint := finished.complaint
    if isMissing complaint name.text then Task.fail (.resourceMissing name.text scope.text)
    else Task.fail (.command (.getFailed name.text scope.text complaint))
  else
    let daemonSet ← Task.ofExcept (readObject finished.output)
    Task.log .debug s!"Fetched daemonset/{name.text} in namespace '{scope.text}'"
    return daemonSet

/-- A part of the metadata of a DaemonSet, or a default when it is not there. -/
def metadataEntry (daemonSet : Json) (name : String) (default : String) :
    Except ShapeProblem Setting := do
  let metadata ← daemonSet.child "metadata"
  return ((← metadata.lookup name).map Setting.ofJson).getD (.str default)

/-- The replacement of a DaemonSet, once its file is written. -/
def sendFile (access : Access) (name scope : Setting) (body : String) : Task Transcript Json := do
  let finished ← run access
    [.str "replace", .str "-f", .str fileName, .str "-n", scope, .str "-o", .str "json"]
    (some (max access.timeout 60)) (some body)
  if finished.code ≠ 0 then
    let complaint := finished.complaint
    if isConflict complaint then Task.fail (.resourceConflict name.text scope.text complaint)
    else if isMissing complaint name.text then
      Task.fail (.resourceMissing name.text scope.text)
    else Task.fail (.command (.replaceFailed name.text scope.text complaint))
  else
    Task.log .info s!"Updated daemonset/{name.text} in namespace '{scope.text}'"
    Task.ofExcept (readObject finished.output)

/-- Write a file.  There is no content when the writing breaks off. -/
def writeFile (content : Option String) : Task Transcript Unit :=
  Task.change fun transcript ↦ { transcript with files := content :: transcript.files }

/-- Remove the file written last. -/
def removeFile : Work Transcript Unit :=
  modify fun session ↦
    { session with cluster := { session.cluster with files := session.cluster.files.tail } }

/-- Replace a DaemonSet.  It is sent in a file, which is removed whatever happens, unless the host
cannot write the DaemonSet: then the file stays. -/
def replace (access : Access) (daemonSet : Json) : Task Transcript Json := do
  let name ← Task.ofShape (metadataEntry daemonSet "name" "<unknown>")
  let scope ← Task.ofShape (metadataEntry daemonSet "namespace" "default")
  match (← Task.host).sendFault? daemonSet with
  | some fault => do
    writeFile none
    Task.fail fault
  | none =>
    let body := daemonSet.line
    writeFile (some body)
    (sendFile access name scope body).andThen removeFile

/-- The cluster behind the command. -/
def cluster (access : Access) : Cluster Transcript := ⟨fetch access, replace access⟩

end AddonUpkeep.Kubectl
