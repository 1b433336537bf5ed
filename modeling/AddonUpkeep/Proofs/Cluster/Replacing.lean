import AddonUpkeep.Proofs.Cluster.Kubectl
import AddonUpkeep.Proofs.Json.Paths
import AddonUpkeep.Proofs.Text.Pieces

/-!
# Replacing through the command

A DaemonSet whose name and namespace are texts is sent in one run, and what becomes of it is told by
the reply to that run alone.  A complaint can fit several faults; a conflict is asked for first, and
the absence of the DaemonSet after it.  The file of the run is gone behind it in every case.  Only a
DaemonSet that cannot be written at all leaves a file, and no run.
-/

namespace AddonUpkeep.Kubectl

variable {name scope : String} {finished : Finished}

/-- The transcript behind a run. -/
def Transcript.ran (transcript : Transcript) (call : Call) : Transcript :=
  { transcript with replies := transcript.replies.tail, calls := transcript.calls ++ [call] }

/-- The run that reads a DaemonSet. -/
def fetchCall (access : Access) (name scope : String) : Call where
  arguments := "kubectl" :: access.options ++ ["get", "daemonset", name, "-n", scope, "-o", "json"]
  timeout := access.timeout
  body := none

/-- The run that replaces a DaemonSet. -/
def replaceCall (access : Access) (scope : String) (daemonSet : Json) : Call where
  arguments := "kubectl" :: access.options ++ ["replace", "-f", fileName, "-n", scope, "-o", "json"]
  timeout := max access.timeout 60
  body := some daemonSet.line

/-- A command of texts is one run, whatever its reply is. -/
theorem cluster_run (access : Access) (words : List String) (timeout : Option Int)
    (body : Option String) (session : Session Transcript) :
    ((run access (words.map .str) timeout body).runOn session).2.cluster =
      session.cluster.ran ⟨"kubectl" :: access.options ++ words,
        if timeout.getD 0 = 0 then access.timeout else timeout.getD 0, body⟩ := by
  unfold run
  dsimp only
  rw [argumentTexts_map_str, Task.runOn_bind, Task.runOn_ofExcept]
  dsimp only
  rw [Task.runOn_bind, Task.runOn_log]
  dsimp only
  rw [Task.runOn_bind, runOn_execute, Session.cluster_noting]
  dsimp only
  cases (session.cluster.replies.headD .silent).result body with
  | ok finished => rfl
  | error interruption => cases interruption <;> rfl

theorem cluster_fetch (access : Access) (name scope : String) (session : Session Transcript) :
    ((fetch access (.str name) (.str scope)).runOn session).2.cluster =
      session.cluster.ran (fetchCall access name scope) := by
  have hrun := cluster_run access ["get", "daemonset", name, "-n", scope, "-o", "json"] none none
    session
  unfold fetch
  rw [Task.runOn_bind]
  rcases hended : (run access [.str "get", .str "daemonset", .str name, .str "-n", .str scope,
    .str "-o", .str "json"] none none).runOn session with ⟨outcome, after⟩
  have hcluster : after.cluster = session.cluster.ran (fetchCall access name scope) :=
    (congrArg (·.2.cluster) hended).symm.trans hrun
  cases outcome with
  | error fault => exact hcluster
  | ok finished =>
    dsimp only
    split
    · split
      · exact hcluster
      · exact hcluster
    · rw [Task.runOn_bind, Task.runOn_ofExcept]
      cases readObject finished.output with
      | error fault => exact hcluster
      | ok daemonSet => exact hcluster

/-- The fault of a complaint about a replacement. -/
def refusal (name scope complaint : String) : Fault :=
  if isConflict complaint then .resourceConflict name scope complaint
  else if isMissing complaint name then .resourceMissing name scope
  else .command (.replaceFailed name scope complaint)

/-- What a finished replacement gives: the object of its output, or the fault that its complaint
tells. -/
def Finished.replaced (name scope : String) (finished : Finished) : Except Fault Json :=
  if finished.code ≠ 0 then .error (refusal name scope finished.complaint)
  else readObject finished.output

theorem replaced_eq_ok_iff {document : Json} :
    finished.replaced name scope = .ok document ↔
      finished.code = 0 ∧ readObject finished.output = .ok document := by
  unfold Finished.replaced
  split
  · next hcode => simp [hcode]
  · next hcode => simp [not_not.mp hcode]

/-- A file is sent in one run, and what becomes of it is what the reply tells. -/
theorem runOn_sendFile (access : Access) (name scope : String) (daemonSet : Json)
    (session : Session Transcript) :
    ((sendFile access (.str name) (.str scope) daemonSet.line).runOn session).1 =
        ((session.cluster.nextResult (some daemonSet.line)).mapError
          (Interruption.fault (max access.timeout 60))).bind (Finished.replaced name scope) ∧
      ((sendFile access (.str name) (.str scope) daemonSet.line).runOn session).2.cluster =
        session.cluster.ran (replaceCall access scope daemonSet) := by
  have htimeout : max access.timeout 60 ≠ 0 := by omega
  have hrun := outcome_run access ["replace", "-f", fileName, "-n", scope, "-o", "json"]
    (some (max access.timeout 60)) (some daemonSet.line) session
  have hran := cluster_run access ["replace", "-f", fileName, "-n", scope, "-o", "json"]
    (some (max access.timeout 60)) (some daemonSet.line) session
  rw [Option.getD_some, if_neg htimeout] at hrun hran
  unfold sendFile
  rw [Task.runOn_bind]
  rcases hended : (run access [.str "replace", .str "-f", .str fileName, .str "-n", .str scope,
    .str "-o", .str "json"] (some (max access.timeout 60)) (some daemonSet.line)).runOn session with
    ⟨outcome, after⟩
  have houtcome : outcome = (session.cluster.nextResult (some daemonSet.line)).mapError
      (Interruption.fault (max access.timeout 60)) := (congrArg Prod.fst hended).symm.trans hrun
  have hcluster : after.cluster = session.cluster.ran (replaceCall access scope daemonSet) :=
    (congrArg (·.2.cluster) hended).symm.trans hran
  rw [← houtcome]
  cases outcome with
  | error fault => exact ⟨rfl, hcluster⟩
  | ok finished =>
    change _ = finished.replaced name scope ∧ _
    unfold Finished.replaced refusal
    dsimp only
    split
    · split
      · exact ⟨rfl, hcluster⟩
      · split
        · next hmissing => exact ⟨congrArg Except.error (if_pos hmissing).symm, hcluster⟩
        · next hother => exact ⟨congrArg Except.error (if_neg hother).symm, hcluster⟩
    · rw [Task.runOn_bind, Task.runOn_log]
      dsimp only
      rw [Task.runOn_ofExcept]
      exact ⟨rfl, hcluster⟩

/-- A DaemonSet tells its name and namespace as texts in its metadata. -/
def Tells (daemonSet : Json) (name scope : String) : Prop :=
  ∃ metadata, daemonSet.field? "metadata" = some metadata ∧
    metadata.field? "name" = some (.str name) ∧ metadata.field? "namespace" = some (.str scope)

theorem metadataEntry_of_field? {daemonSet metadata : Json} {key text : String}
    (hmetadata : daemonSet.field? "metadata" = some metadata)
    (hkey : metadata.field? key = some (.str text)) (default : String) :
    metadataEntry daemonSet key default = .ok (.str text) := by
  have hpresent : metadata.isPresent = true := by
    cases metadata with
    | obj fields => cases fields with
      | nil => cases hkey
      | cons field fields => rfl
    | _ => cases hkey
  have hchild : daemonSet.child "metadata" = .ok metadata := by
    rw [Json.child, Json.lookup_of_field? hmetadata, ok_bind, Json.presentOr, if_pos hpresent]
    rfl
  rw [metadataEntry, hchild, ok_bind, Json.lookup_of_field? hkey, ok_bind]
  rfl

section Replace

variable {access : Access} {daemonSet : Json} {session : Session Transcript}

/-- The session behind the writing of a file. -/
def writing (session : Session Transcript) (content : Option String) : Session Transcript :=
  { session with cluster := { session.cluster with files := content :: session.cluster.files } }

/-- A DaemonSet that tells its name and namespace is written to a file, and sent unless the host
cannot write it. -/
theorem runOn_replace_eq (h : Tells daemonSet name scope) :
    (replace access daemonSet).runOn session = match session.host.sendFault? daemonSet with
      | some fault => (.error fault, writing session none)
      | none => ((sendFile access (.str name) (.str scope) daemonSet.line).andThen removeFile).runOn
        (writing session (some daemonSet.line)) := by
  obtain ⟨metadata, hmetadata, hname, hscope⟩ := h
  have hread (text : String) :
      (Task.ofShape (.ok (.str text)) : Task Transcript Setting) = pure (.str text) := rfl
  unfold replace
  rw [metadataEntry_of_field? hmetadata hname, metadataEntry_of_field? hmetadata hscope, hread,
    hread, pure_bind, pure_bind, Task.runOn_host_bind]
  cases session.host.sendFault? daemonSet with
  | some fault => rfl
  | none => rfl

/-- Replacing a DaemonSet that tells its name and namespace, and that the host can write, is one
run, whose reply tells what becomes of it.  The file that is written for the run is removed behind
it. -/
theorem runOn_replace (h : Tells daemonSet name scope)
    (hsend : session.host.sendFault? daemonSet = none) :
    ((replace access daemonSet).runOn session).1 =
        ((session.cluster.nextResult (some daemonSet.line)).mapError
          (Interruption.fault (max access.timeout 60))).bind (Finished.replaced name scope) ∧
      ((replace access daemonSet).runOn session).2.cluster =
        session.cluster.ran (replaceCall access scope daemonSet) := by
  obtain ⟨houtcome, hcluster⟩ :=
    runOn_sendFile access name scope daemonSet (writing session (some daemonSet.line))
  rw [runOn_replace_eq h, hsend]
  dsimp only
  rw [Task.runOn_andThen]
  refine ⟨houtcome, ?_⟩
  exact congrArg (fun transcript : Transcript ↦
    { transcript with files := transcript.files.tail }) hcluster

/-- A DaemonSet that the host cannot write is not sent.  The file whose writing broke off stays. -/
theorem runOn_replace_of_sendFault {fault : Fault} (h : Tells daemonSet name scope)
    (hsend : session.host.sendFault? daemonSet = some fault) :
    (replace access daemonSet).runOn session = (.error fault, writing session none) := by
  rw [runOn_replace_eq h, hsend]

end Replace

end AddonUpkeep.Kubectl
