import AddonUpkeep.Config.Basic
import AddonUpkeep.Proofs.Cluster.Replacing

/-!
# The words of every run

Each operation on a cluster makes one run of the command at most, with words and a timeout that the
access and the operation fix.  Only a name or a namespace that is no text keeps a run from being
made.
-/

namespace AddonUpkeep

/-- What a task does behind another one does not touch the cluster when none of its ways does. -/
theorem Task.cluster_bind {σ α β : Type} {task : Task σ α} {next : α → Task σ β}
    (h : ∀ value session, ((next value).runOn session).2.cluster = session.cluster)
    (session : Session σ) :
    ((task >>= next : Task σ β).runOn session).2.cluster = (task.runOn session).2.cluster := by
  rw [Task.runOn_bind]
  rcases task.runOn session with ⟨outcome, after⟩
  cases outcome with
  | ok value => exact h value after
  | error fault => rfl

namespace Kubectl

variable {access : Access}

/-- The words of an option with its value, when it has one. -/
def optionWords (option : String) : Option String → List String
  | none => []
  | some value => [option, value]

theorem options_eq (access : Access) :
    access.options = optionWords "--kubeconfig" access.kubeconfig ++
      optionWords "--context" (Config.given? access.context) := by
  unfold Access.options Config.given?
  congr 1
  · cases access.kubeconfig with
    | none => rfl
    | some path => rfl
  · cases access.context with
    | none => rfl
    | some context =>
      change (if context.isEmpty then [] else ["--context", context]) = _
      rw [Option.filter_some]
      cases context.isEmpty with
      | true => rfl
      | false => rfl

theorem runs_ran (transcript : Transcript) (call : Call) :
    transcript.Runs (transcript.ran call) [call] := ⟨rfl, (List.drop_one).symm⟩

/-- The run that asks for the version of the command. -/
def versionCall : Call := ⟨["kubectl", "version", "--client"], 10, none⟩

theorem cluster_checkClient (session : Session Transcript) :
    (checkClient.runOn session).2.cluster = session.cluster.ran versionCall := by
  unfold checkClient
  rw [Task.cluster_bind fun ended session ↦ ?_, runOn_execute]
  · rfl
  · cases ended with
    | error interruption => cases interruption <;> rfl
    | ok finished =>
      dsimp only
      split
      · rfl
      · rfl

theorem runs_checkClient (session : Session Transcript) :
    session.cluster.Runs (checkClient.runOn session).2.cluster [versionCall] := by
  rw [cluster_checkClient]
  exact runs_ran _ _

/-- The command works when it tells its version with the code zero. -/
theorem checkClient_eq_ok_iff (session : Session Transcript) :
    (checkClient.runOn session).1 = .ok () ↔
      ∃ output errors, session.cluster.nextResult none = .ok ⟨0, output, errors⟩ := by
  unfold checkClient
  rw [Task.runOn_bind, runOn_execute]
  change _ ↔ ∃ output errors, (session.cluster.replies.headD .silent).result none = _
  dsimp only
  cases (session.cluster.replies.headD .silent).result none with
  | error interruption =>
    refine iff_of_false (fun h ↦ ?_) (by simp)
    cases interruption <;> cases h
  | ok finished =>
    obtain ⟨code, output, errors⟩ := finished
    dsimp only
    split
    · next hcode =>
      refine iff_of_false (fun h ↦ ?_) (by simp [hcode])
      cases h
    · next hcode => simp [not_not.mp hcode]

theorem asText?_eq_some_iff {setting : Setting} {text : String} :
    setting.asText? = some text ↔ setting = .str text := by
  cases setting <;> simp [Setting.asText?]

theorem argumentTexts_of_no_text {arguments : List Setting}
    (h : ∃ argument ∈ arguments, argument.asText? = none) (position : Nat) :
    ∃ fault, argumentTexts position arguments = .error fault := by
  induction arguments generalizing position with
  | nil =>
    obtain ⟨argument, hmem, -⟩ := h
    cases hmem
  | cons argument arguments ih =>
    rw [argumentTexts]
    cases htext : argument.asText? with
    | none => exact ⟨_, rfl⟩
    | some text =>
      obtain ⟨other, hmem, hnone⟩ := h
      rcases List.mem_cons.mp hmem with rfl | hlater
      · cases htext.symm.trans hnone
      · obtain ⟨fault, hfault⟩ := ih ⟨other, hlater, hnone⟩ (position + 1)
        dsimp only
        rw [hfault]
        exact ⟨fault, rfl⟩

/-- A command of which some argument is no text is not run. -/
theorem run_of_no_text {arguments : List Setting} (timeout : Option Int) (body : Option String)
    (h : ∃ argument ∈ arguments, argument.asText? = none) (session : Session Transcript) :
    ∃ fault, (run access arguments timeout body).runOn session = (.error fault, session) := by
  obtain ⟨fault, hwords⟩ := argumentTexts_of_no_text h ("kubectl" :: access.options).length
  refine ⟨fault, ?_⟩
  unfold run
  dsimp only
  rw [Task.runOn_bind, Task.runOn_ofExcept, hwords]

/-- A DaemonSet whose name or namespace is no text is not read. -/
theorem fetch_of_no_text {name scope : Setting}
    (h : name.asText? = none ∨ scope.asText? = none) (session : Session Transcript) :
    ∃ fault, (fetch access name scope).runOn session = (.error fault, session) := by
  have hnone : ∃ argument ∈ [.str "get", .str "daemonset", name, .str "-n", scope, .str "-o",
      .str "json"], argument.asText? = none := by
    rcases h with hname | hscope
    · exact ⟨name, by simp, hname⟩
    · exact ⟨scope, by simp, hscope⟩
  obtain ⟨fault, hrun⟩ := @run_of_no_text access _ none none hnone session
  exact ⟨fault, Task.runOn_bind_of_error hrun⟩

/-- What is made of the end of the run that sends a file does not touch the cluster. -/
theorem cluster_sendFile (access : Access) (name scope : Setting) (body : String)
    (session : Session Transcript) :
    ((sendFile access name scope body).runOn session).2.cluster =
      ((run access [.str "replace", .str "-f", .str fileName, .str "-n", scope, .str "-o",
        .str "json"] (some (max access.timeout 60)) (some body)).runOn session).2.cluster := by
  refine Task.cluster_bind (fun finished session ↦ ?_) session
  dsimp only
  split
  · split
    · rfl
    · split
      · rfl
      · rfl
  · rw [Task.runOn_bind, Task.runOn_log]
    dsimp only
    rw [Task.runOn_ofExcept, Session.cluster_noting]

/-- A file is sent in one run, unless the namespace is no text. -/
theorem sendFile_runs (access : Access) (name scope : Setting) (daemonSet : Json)
    (session : Session Transcript) :
    let after := ((sendFile access name scope daemonSet.line).runOn session).2.cluster
    ∃ calls, (calls = [] ∨ ∃ target, calls = [replaceCall access target daemonSet]) ∧
      session.cluster.Runs after calls := by
  intro after
  have hafter : after = _ := cluster_sendFile access name scope daemonSet.line session
  rw [hafter]
  cases hscope : scope.asText? with
  | none =>
    obtain ⟨fault, hrun⟩ := @run_of_no_text access [.str "replace", .str "-f", .str fileName,
      .str "-n", scope, .str "-o", .str "json"] (some (max access.timeout 60))
      (some daemonSet.line) ⟨scope, by simp, hscope⟩ session
    rw [hrun]
    exact ⟨[], .inl rfl, .refl _⟩
  | some target =>
    obtain rfl := asText?_eq_some_iff.mp hscope
    have hrun := cluster_run access ["replace", "-f", fileName, "-n", target, "-o", "json"]
      (some (max access.timeout 60)) (some daemonSet.line) session
    -- a timeout of its own is at least 60, so it is not the one of the access
    rw [Option.getD_some, if_neg (by omega)] at hrun
    refine ⟨[replaceCall access target daemonSet], .inr ⟨target, rfl⟩, ?_⟩
    exact hrun ▸ runs_ran session.cluster (replaceCall access target daemonSet)

/-- Replacing sends the printed DaemonSet in one run at most. -/
theorem replace_runs (access : Access) (daemonSet : Json) (session : Session Transcript) :
    ∃ calls, (calls = [] ∨ ∃ target, calls = [replaceCall access target daemonSet]) ∧
      session.cluster.Runs ((replace access daemonSet).runOn session).2.cluster calls :=
  replace_of_sendFile (.inl rfl)
    (fun name scope before ↦ sendFile_runs access name scope daemonSet before) session

end Kubectl

end AddonUpkeep
