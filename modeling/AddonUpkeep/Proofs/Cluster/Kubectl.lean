import AddonUpkeep.Cluster.Kubectl
import AddonUpkeep.Proofs.Cluster.Session
import AddonUpkeep.Proofs.Reading

/-!
# Which commands are run

Reading a DaemonSet runs the command once at most, with the word for reading, and replacing one runs
it once at most, with the word for replacing and the printed DaemonSet.
-/

namespace AddonUpkeep.Kubectl

/-- The first word behind the options that tell which cluster is meant. -/
def commandWord? : List String → Option String
  | "--kubeconfig" :: _ :: words => commandWord? words
  | "--context" :: _ :: words => commandWord? words
  | word :: _ => some word
  | [] => none

/-- The word that tells what a run does. -/
def Call.verb? (call : Call) : Option String := commandWord? call.arguments.tail

/-- Some runs lead from one transcript to another, and each takes the next reply. -/
structure Transcript.Runs (before after : Transcript) (calls : List Call) : Prop where
  calls_eq : after.calls = before.calls ++ calls
  replies_eq : after.replies = before.replies.drop calls.length

namespace Transcript.Runs

variable {first middle last : Transcript} {calls more : List Call}

theorem refl (transcript : Transcript) : transcript.Runs transcript [] :=
  ⟨(List.append_nil _).symm, rfl⟩

theorem trans (h : first.Runs middle calls) (h' : middle.Runs last more) :
    first.Runs last (calls ++ more) where
  calls_eq := by rw [h'.calls_eq, h.calls_eq, List.append_assoc]
  replies_eq := by rw [h'.replies_eq, h.replies_eq, List.drop_drop, List.length_append]

end Transcript.Runs

theorem commandWord?_options (access : Access) {word : String} (words : List String)
    (hconfig : word ≠ "--kubeconfig") (hcontext : word ≠ "--context") :
    commandWord? (access.options ++ word :: words) = some word := by
  have hword : commandWord? (word :: words) = some word := by
    unfold commandWord?
    split
    · next heq => exact absurd (List.cons.inj heq).1 hconfig
    · next heq => exact absurd (List.cons.inj heq).1 hcontext
    · next heq => rw [(List.cons.inj heq).1]
    · next heq => cases heq
  unfold Access.options
  cases access.kubeconfig with
  | none =>
    cases access.context with
    | none => exact hword
    | some context =>
      dsimp only
      split
      · exact hword
      · exact hword
  | some path =>
    cases access.context with
    | none => exact hword
    | some context =>
      dsimp only
      split
      · exact hword
      · exact hword

theorem argumentTexts_str {position : Nat} {word : String} {arguments : List Setting}
    {words : List String} (h : argumentTexts position (.str word :: arguments) = .ok words) :
    ∃ more, words = word :: more := by
  unfold argumentTexts at h
  cases hmore : argumentTexts (position + 1) arguments with
  | error fault =>
    rw [hmore] at h
    cases h
  | ok more =>
    rw [hmore] at h
    exact ⟨more, (Except.ok.inj h).symm⟩

theorem runOn_execute (call : Call) (session : Session Transcript) :
    (execute call).runOn session =
      (.ok ((session.cluster.replies.headD .silent).result call.body), { session with
        cluster := { session.cluster with
          replies := session.cluster.replies.tail, calls := session.cluster.calls ++ [call] } }) :=
  rfl

/-- The end of the next run on a file, as its reply tells. -/
def Transcript.nextResult (transcript : Transcript) (body : Option String) :
    Except Interruption Finished :=
  (transcript.replies.headD .silent).result body

theorem argumentTexts_map_str (position : Nat) (words : List String) :
    argumentTexts position (words.map Setting.str) = .ok words := by
  induction words generalizing position with
  | nil => rfl
  | cons word words ih =>
    rw [List.map_cons, argumentTexts]
    dsimp only [Setting.asText?]
    rw [ih]
    rfl

/-- The fault of a run that has no end of its own. -/
def Interruption.fault (seconds : Int) : Interruption → Fault
  | timedOut => .command (.timedOut seconds)
  | missing => .command .notFound
  | refused problem => problem.fault

/-- A command of texts is run, and ends as its reply tells. -/
theorem outcome_run (access : Access) (words : List String) (timeout : Option Int)
    (body : Option String) (session : Session Transcript) :
    ((run access (words.map .str) timeout body).runOn session).1 =
      (session.cluster.nextResult body).mapError
        (Interruption.fault (if timeout.getD 0 = 0 then access.timeout else timeout.getD 0)) := by
  unfold run
  dsimp only
  rw [argumentTexts_map_str, Task.runOn_bind, Task.runOn_ofExcept]
  dsimp only
  rw [Task.runOn_bind, Task.runOn_log]
  dsimp only
  rw [Task.runOn_bind, runOn_execute, Session.cluster_noting]
  change _ = ((session.cluster.replies.headD .silent).result body).mapError _
  dsimp only
  cases (session.cluster.replies.headD .silent).result body with
  | ok finished => rfl
  | error interruption => cases interruption <;> rfl

/-- What a finished reading gives: the object of its output, or the fault that its complaint
tells. -/
def Finished.fetched (name scope : String) (finished : Finished) : Except Fault Json :=
  if finished.code ≠ 0 then
    if isMissing finished.complaint name then .error (.resourceMissing name scope)
    else .error (.command (.getFailed name scope finished.complaint))
  else readObject finished.output

/-- A DaemonSet whose name and namespace are texts is read as the reply tells. -/
theorem outcome_fetch (access : Access) (name scope : String) (session : Session Transcript) :
    ((fetch access (.str name) (.str scope)).runOn session).1 =
      ((session.cluster.nextResult none).mapError (Interruption.fault access.timeout)).bind
        (Finished.fetched name scope) := by
  have hrun := outcome_run access ["get", "daemonset", name, "-n", scope, "-o", "json"] none none
    session
  unfold fetch
  rw [Task.runOn_bind]
  rcases hended : (run access [.str "get", .str "daemonset", .str name, .str "-n", .str scope,
    .str "-o", .str "json"] none none).runOn session with ⟨outcome, after⟩
  have houtcome : outcome =
      (session.cluster.nextResult none).mapError (Interruption.fault access.timeout) :=
    (congrArg Prod.fst hended).symm.trans hrun
  rw [← houtcome]
  cases outcome with
  | error fault => rfl
  | ok finished =>
    change _ = finished.fetched name scope
    unfold Finished.fetched
    dsimp only
    split
    · split
      · next hmissing => exact (if_pos hmissing).symm
      · next hother => exact (if_neg hother).symm
    · rw [Task.runOn_bind, Task.runOn_ofExcept]
      cases readObject finished.output <;> rfl

/-- A command whose arguments are no texts is not run.  Others run once, and end as the reply
tells. -/
theorem run_cases (access : Access) {verb : String} (arguments : List Setting)
    (timeout : Option Int) (body : Option String) (session : Session Transcript)
    (hconfig : verb ≠ "--kubeconfig") (hcontext : verb ≠ "--context") :
    ∃ outcome after,
      (run access (.str verb :: arguments) timeout body).runOn session = (outcome, after) ∧
      after.cluster.files = session.cluster.files ∧
      ((∃ fault, outcome = .error fault ∧ session.cluster.Runs after.cluster []) ∨
        ∃ call, call.verb? = some verb ∧ call.body = body ∧
          session.cluster.Runs after.cluster [call] ∧
          ∀ finished, outcome = .ok finished →
            session.cluster.nextResult body = .ok finished) := by
  unfold run
  dsimp only
  rw [Task.runOn_bind, Task.runOn_ofExcept]
  cases hwords : argumentTexts ("kubectl" :: access.options).length (.str verb :: arguments) with
  | error fault =>
    exact ⟨_, _, rfl, rfl, .inl ⟨fault, rfl, Transcript.Runs.refl _⟩⟩
  | ok words =>
    obtain ⟨more, rfl⟩ := argumentTexts_str hwords
    dsimp only
    rw [Task.runOn_bind, Task.runOn_log]
    dsimp only
    rw [Task.runOn_bind, runOn_execute, Session.cluster_noting]
    dsimp only
    set call : Call := ⟨"kubectl" :: access.options ++ verb :: more,
      if timeout.getD 0 = 0 then access.timeout else timeout.getD 0, body⟩ with hcall
    have hverb : call.verb? = some verb := commandWord?_options access more hconfig hcontext
    have hruns : session.cluster.Runs { session.cluster with
        replies := session.cluster.replies.tail, calls := session.cluster.calls ++ [call] } [call] :=
      ⟨rfl, (List.drop_one).symm⟩
    cases hresult : (session.cluster.replies.headD .silent).result body with
    | ok finished =>
      refine ⟨_, _, rfl, rfl, .inr ⟨call, hverb, rfl, hruns, fun other hother ↦ ?_⟩⟩
      rw [← Except.ok.inj hother]
      exact hresult
    | error interruption =>
      cases interruption with
      | timedOut =>
        refine ⟨_, _, rfl, rfl, .inr ⟨call, hverb, rfl, hruns, fun other hother ↦ ?_⟩⟩
        cases hother
      | missing =>
        refine ⟨_, _, rfl, rfl, .inr ⟨call, hverb, rfl, hruns, fun other hother ↦ ?_⟩⟩
        cases hother
      | refused problem =>
        refine ⟨_, _, rfl, rfl, .inr ⟨call, hverb, rfl, hruns, fun other hother ↦ ?_⟩⟩
        cases hother

theorem readObject_eq_ok {output : String} {document : Json} (h : readObject output = .ok document) :
    Json.parse output = .ok document ∧ ∃ fields, document = .obj fields := by
  unfold readObject at h
  split at h
  · next fields hfields =>
    cases h
    exact ⟨hfields, fields, rfl⟩
  · cases h
  · cases h

/-- The next reply ends a run well, with a document that is an object. -/
def Transcript.Offers (transcript : Transcript) (document : Json) : Prop :=
  ∃ output errors, transcript.nextResult none = .ok ⟨0, output, errors⟩ ∧
    Json.parse output = .ok document ∧ ∃ fields, document = .obj fields

/-- Reading runs one command at most, without a file, and what is read is the object in its
reply. -/
theorem fetch_cases (access : Access) (name scope : Setting) (session : Session Transcript) :
    ∃ outcome after, (fetch access name scope).runOn session = (outcome, after) ∧
      ((∃ fault, outcome = .error fault ∧ session.cluster.Runs after.cluster []) ∨
        ∃ call, call.verb? = some "get" ∧ call.body = none ∧
          session.cluster.Runs after.cluster [call] ∧
          ∀ daemonSet, outcome = .ok daemonSet → session.cluster.Offers daemonSet) := by
  obtain ⟨outcome, after, hrun, -, hcases⟩ := run_cases access
    [.str "daemonset", name, .str "-n", scope, .str "-o", .str "json"] none none session
    (by decide : "get" ≠ "--kubeconfig") (by decide)
  unfold fetch
  rw [Task.runOn_bind, hrun]
  rcases hcases with ⟨fault, rfl, hruns⟩ | ⟨call, hverb, hbody, hruns, hfinished⟩
  · exact ⟨_, _, rfl, .inl ⟨fault, rfl, hruns⟩⟩
  · cases outcome with
    | error fault => exact ⟨_, _, rfl, .inr ⟨call, hverb, hbody, hruns, fun _ h ↦ by cases h⟩⟩
    | ok finished =>
      have hreply := hfinished finished rfl
      dsimp only
      split
      · split
        · exact ⟨_, _, rfl, .inr ⟨call, hverb, hbody, hruns, fun _ h ↦ by cases h⟩⟩
        · exact ⟨_, _, rfl, .inr ⟨call, hverb, hbody, hruns, fun _ h ↦ by cases h⟩⟩
      · next hcode =>
        rw [Task.runOn_bind, Task.runOn_ofExcept]
        cases hread : readObject finished.output with
        | error fault => exact ⟨_, _, rfl, .inr ⟨call, hverb, hbody, hruns, fun _ h ↦ by cases h⟩⟩
        | ok daemonSet =>
          refine ⟨_, _, rfl, .inr ⟨call, hverb, hbody, hruns, fun other hother ↦ ?_⟩⟩
          cases hother
          obtain ⟨hparse, hobject⟩ := readObject_eq_ok hread
          obtain ⟨code, output, errors⟩ := finished
          have hzero : code = 0 := not_not.mp hcode
          subst hzero
          exact ⟨output, errors, hreply, hparse, hobject⟩

/-- Sending a file runs one command at most, on that file. -/
theorem sendFile_cases (access : Access) (name scope : Setting) (body : String)
    (session : Session Transcript) :
    session.cluster.Runs ((sendFile access name scope body).runOn session).2.cluster [] ∨
      ∃ call, call.verb? = some "replace" ∧ call.body = some body ∧
        session.cluster.Runs ((sendFile access name scope body).runOn session).2.cluster [call] := by
  obtain ⟨outcome, after, hrun, -, hcases⟩ := run_cases access
    [.str "-f", .str fileName, .str "-n", scope, .str "-o", .str "json"]
    (some (max access.timeout 60)) (some body) session
    (by decide : "replace" ≠ "--kubeconfig") (by decide)
  have hcluster : ((sendFile access name scope body).runOn session).2.cluster = after.cluster := by
    unfold sendFile
    rw [Task.runOn_bind, hrun]
    cases outcome with
    | error fault => rfl
    | ok finished =>
      dsimp only
      split
      · split
        · rfl
        · split
          · rfl
          · rfl
      · rw [Task.runOn_bind, Task.runOn_log]
        dsimp only
        rw [Task.runOn_ofExcept, Session.cluster_noting]
  rw [hcluster]
  rcases hcases with ⟨-, -, hruns⟩ | ⟨call, hverb, hbody, hruns, -⟩
  · exact .inl hruns
  · exact .inr ⟨call, hverb, hbody, hruns⟩

/-- Replacing makes the runs of sending the file, or none.  Writing and removing the file touch
neither the runs nor the replies. -/
theorem replace_of_sendFile {access : Access} {daemonSet : Json} {P : List Call → Prop}
    (hnone : P [])
    (hsend : ∀ name scope (before : Session Transcript), ∃ calls, P calls ∧
      before.cluster.Runs ((sendFile access name scope daemonSet.line).runOn before).2.cluster calls)
    (session : Session Transcript) :
    ∃ calls, P calls ∧
      session.cluster.Runs ((replace access daemonSet).runOn session).2.cluster calls := by
  unfold replace
  rw [Task.runOn_bind, Task.runOn_ofShape]
  cases (metadataEntry daemonSet "name" "<unknown>").mapError Fault.shape with
  | error fault => exact ⟨[], hnone, .refl _⟩
  | ok name =>
    dsimp only
    rw [Task.runOn_bind, Task.runOn_ofShape]
    cases (metadataEntry daemonSet "namespace" "default").mapError Fault.shape with
    | error fault => exact ⟨[], hnone, .refl _⟩
    | ok scope =>
      dsimp only
      rw [Task.runOn_host_bind]
      cases session.host.sendFault? daemonSet with
      | some fault => exact ⟨[], hnone, (List.append_nil _).symm, rfl⟩
      | none =>
        dsimp only
        rw [Task.runOn_bind, writeFile, Task.runOn_change]
        dsimp only
        rw [Task.runOn_andThen]
        obtain ⟨calls, hcalls, hruns⟩ := hsend name scope { session with
          cluster := { session.cluster with
            files := some daemonSet.line :: session.cluster.files } }
        exact ⟨calls, hcalls, hruns.calls_eq, hruns.replies_eq⟩

/-- Replacing runs one command at most, on the printed DaemonSet. -/
theorem replace_cases (access : Access) (daemonSet : Json) (session : Session Transcript) :
    session.cluster.Runs ((replace access daemonSet).runOn session).2.cluster [] ∨
      ∃ call, call.verb? = some "replace" ∧ call.body = some daemonSet.line ∧
        session.cluster.Runs ((replace access daemonSet).runOn session).2.cluster [call] := by
  have hsend (name scope : Setting) (before : Session Transcript) : ∃ calls,
      (calls = [] ∨ ∃ call : Call, calls = [call] ∧ call.verb? = some "replace" ∧
        call.body = some daemonSet.line) ∧
      before.cluster.Runs ((sendFile access name scope daemonSet.line).runOn before).2.cluster
        calls := by
    rcases sendFile_cases access name scope daemonSet.line before with
      hruns | ⟨call, hverb, hbody, hruns⟩
    · exact ⟨[], .inl rfl, hruns⟩
    · exact ⟨[call], .inr ⟨call, rfl, hverb, hbody⟩, hruns⟩
  obtain ⟨calls, rfl | ⟨call, rfl, hverb, hbody⟩, hruns⟩ :=
    replace_of_sendFile (.inl rfl) hsend session
  · exact .inl hruns
  · exact .inr ⟨call, hverb, hbody, hruns⟩

end AddonUpkeep.Kubectl
