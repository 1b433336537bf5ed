import AddonUpkeep.Cli.Run
import AddonUpkeep.Proofs.Addon.Completeness
import AddonUpkeep.Proofs.Addon.Sending
import AddonUpkeep.Proofs.Cli.Approval
import AddonUpkeep.Proofs.Cluster.Calls

/-!
# When a command line writes

A command line makes one run that asks for the version of the command, then at most one that reads a
DaemonSet, then at most one that sends it.  The last is made for an approved update only, and the
words say whether there is one.
-/

namespace AddonUpkeep

open AddonUpkeep.Kubectl

namespace Kubectl

/-- The runs on a DaemonSet: it is read at most once, and sent at most once, after the reply to the
reading held a DaemonSet, and only when that is allowed. -/
inductive GuardedRuns (allowed : Prop) (before : Transcript) : List Call → Prop
  | none : GuardedRuns allowed before []
  | read {get : Call} (hget : get.verb? = some "get") (hnone : get.body = none) :
      GuardedRuns allowed before [get]
  | sent {get replace : Call} {fetched : Json} (hget : get.verb? = some "get")
      (hnone : get.body = none) (hreplace : replace.verb? = some "replace") (hallowed : allowed)
      (hoffers : before.Offers fetched) : GuardedRuns allowed before [get, replace]

theorem GuardedRuns.mono {allowed allowed' : Prop} {before : Transcript}
    {calls : List Call} (h : GuardedRuns allowed before calls) (himp : allowed → allowed') :
    GuardedRuns allowed' before calls := by
  cases h with
  | none => exact .none
  | read hget hnone => exact .read hget hnone
  | sent hget hnone hreplace hallowed hoffers =>
    exact .sent hget hnone hreplace (himp hallowed) hoffers

theorem verb?_ne {call other : Call} {word word' : String} (h : call.verb? = some word)
    (h' : other.verb? = some word') (hne : word ≠ word') : call ≠ other := by
  rintro rfl
  rw [h] at h'
  exact hne (Option.some.inj h')

/-- A guarded run that sends is the last of two, behind the one that reads. -/
theorem GuardedRuns.sends {allowed : Prop} {before : Transcript}
    {calls front behind : List Call} {replace : Call} (h : GuardedRuns allowed before calls)
    (hcalls : calls = front ++ replace :: behind) (hreplace : replace.verb? = some "replace") :
    allowed ∧ behind = [] ∧ ∃ (get : Call) (fetched : Json), front = [get] ∧
      get.verb? = some "get" ∧ get.body = .none ∧ before.Offers fetched := by
  cases h with
  | none => exact absurd hcalls (by simp)
  | read hget hnone =>
    cases front with
    | nil => exact absurd (List.cons.inj hcalls).1 (verb?_ne hget hreplace (by decide))
    | cons first front => exact absurd (List.cons.inj hcalls).2 (by simp)
  | sent hget hnone hsent hallowed hoffers =>
    cases front with
    | nil => exact absurd (List.cons.inj hcalls).1 (verb?_ne hget hreplace (by decide))
    | cons first front =>
      obtain ⟨rfl, hrest⟩ := List.cons.inj hcalls
      cases front with
      | nil => exact ⟨hallowed, (List.cons.inj hrest).2.symm, _, _, rfl, hget, hnone, hoffers⟩
      | cons second front => exact absurd (List.cons.inj hrest).2 (by simp)

/-- Guarded runs lead from one transcript to another. -/
def Transcript.Guarded (before : Transcript) (allowed : Prop) (after : Transcript) : Prop :=
  ∃ calls, before.Runs after calls ∧ GuardedRuns allowed before calls

theorem Transcript.Guarded.refl (allowed : Prop) (transcript : Transcript) :
    transcript.Guarded allowed transcript :=
  ⟨[], .refl transcript, .none⟩

/-- The runs of a whole command line: the version of the command is asked for first. -/
inductive LineRuns (allowed : Prop) (before : Transcript) : List Call → Prop
  | none : LineRuns allowed before []
  | checked {version : Call} {middle : Transcript} {calls : List Call}
      (hversion : version.verb? = some "version") (hmiddle : before.Runs middle [version])
      (hguarded : GuardedRuns allowed middle calls) : LineRuns allowed before (version :: calls)

/-- A run that sends is the third and last of a command line, behind the one that reads. -/
theorem LineRuns.sends {allowed : Prop} {before : Transcript}
    {calls front behind : List Call} {replace : Call} (h : LineRuns allowed before calls)
    (hcalls : calls = front ++ replace :: behind) (hreplace : replace.verb? = some "replace") :
    allowed ∧ behind = [] ∧ ∃ (version get : Call) (middle : Transcript) (fetched : Json),
      front = [version, get] ∧ get.verb? = some "get" ∧ get.body = .none ∧
      before.Runs middle [version] ∧ middle.Offers fetched := by
  cases h with
  | none => exact absurd hcalls (by simp)
  | checked hversion hmiddle hguarded =>
    cases front with
    | nil => exact absurd (List.cons.inj hcalls).1 (verb?_ne hversion hreplace (by decide))
    | cons first front =>
      obtain ⟨rfl, hrest⟩ := List.cons.inj hcalls
      obtain ⟨hallowed, hbehind, get, fetched, rfl, hget, hnone, hoffers⟩ :=
        hguarded.sends hrest hreplace
      exact ⟨hallowed, hbehind, _, get, _, fetched, rfl, hget, hnone, hmiddle, hoffers⟩

/-- A command line sends once at most: nothing follows a run that sends. -/
theorem LineRuns.length_filter_le {allowed : Prop} {before : Transcript}
    {calls : List Call} (h : LineRuns allowed before calls) :
    (calls.filter (·.verb? = some "replace")).length ≤ 1 := by
  cases hfilter : calls.filter (·.verb? = some "replace") with
  | nil => exact Nat.zero_le 1
  | cons replace more =>
    obtain ⟨front, behind, hcalls, -, hreplace, hmore⟩ := List.filter_eq_cons_iff.mp hfilter
    obtain ⟨-, rfl, -⟩ := h.sends hcalls (of_decide_eq_true hreplace)
    rw [← hmore]
    exact le_refl 1

end Kubectl

namespace KubeProxy

variable {proxy : KubeProxy} {version : String} {dryRun : Bool} {before : Transcript}
  {calls : List Call}

/-- The runs of an update are guarded by its not being a dry run. -/
theorem UpdateRuns.guarded (h : UpdateRuns proxy version dryRun before calls) :
    GuardedRuns (dryRun = false) before calls := by
  cases h with
  | none => exact .none
  | read hget hnone => exact .read hget hnone
  | sent hget hnone hreplace hdry hoffers hassess hbody =>
    exact .sent hget hnone hreplace hdry hoffers

/-- How a check runs the command. -/
theorem isUpToDate_guarded (proxy : KubeProxy) (access : Access) (version : String)
    (session : Session Transcript) (allowed : Prop) :
    session.cluster.Guarded allowed
      ((proxy.isUpToDate (Kubectl.cluster access) version).runOn session).2.cluster := by
  obtain ⟨outcome, after, hfetch, hcases⟩ := fetch_cases access proxy.name proxy.scope session
  rw [cluster_isUpToDate, show (Kubectl.cluster access).fetch = fetch access from rfl, hfetch]
  rcases hcases with ⟨-, -, hruns⟩ | ⟨get, hget, hnone, hruns, -⟩
  · exact ⟨[], hruns, .none⟩
  · exact ⟨[get], hruns, .read hget hnone⟩

theorem apply_guarded (proxy : KubeProxy) (access : Access) (version : String) (dryRun : Bool)
    (session : Session Transcript) :
    session.cluster.Guarded (dryRun = false)
      ((proxy.apply (Kubectl.cluster access) version dryRun).runOn session).2.cluster := by
  obtain ⟨calls, hruns, hupdate⟩ := apply_runs proxy access version dryRun session
  exact ⟨calls, hruns, hupdate.guarded⟩

end KubeProxy

namespace Summary

open AddonUpkeep.KubeProxy

variable {α : Type}

/-- Handling addons one after the other is guarded when handling one is. -/
theorem mapM_guarded {handle : AddonKind → Work Transcript (Result α)} {allowed : Prop}
    {kinds : List AddonKind}
    (hhandle : ∀ kind session, Transcript.Guarded session.cluster allowed
      ((handle kind).runOn session).2.cluster)
    (hkinds : kinds.Nodup) (session : Session Transcript) :
    session.cluster.Guarded allowed ((kinds.mapM handle).runOn session).2.cluster := by
  rcases kinds_eq hkinds with rfl | rfl
  · exact .refl allowed session.cluster
  · exact hhandle .kubeProxy session

/-- How a check of the addons of some names runs the command. -/
theorem check_guarded (settings : Table String (Option Settings)) (access : Access)
    (names : List String) (version : String) (session : Session Transcript) (allowed : Prop) :
    session.cluster.Guarded allowed
      ((check settings (Kubectl.cluster access) names version).runOn session).2.cluster := by
  obtain ⟨log, message, hcheck⟩ :=
    runOn_check settings (Kubectl.cluster access) names version session
  rw [hcheck]
  apply mapM_guarded _ (nodup_namedKinds names) (session.noting log)
  intro kind session
  cases kind
  obtain ⟨behind, hone⟩ :=
    runOn_checkOne settings (Kubectl.cluster access) version session .kubeProxy
  rw [hone]
  exact isUpToDate_guarded (Catalog.kubeProxy settings) access version session allowed

/-- How an update of the addons of some names runs the command. -/
theorem update_guarded (settings : Table String (Option Settings)) (access : Access)
    (names : List String) (version : String) (dryRun : Bool) (session : Session Transcript) :
    session.cluster.Guarded (dryRun = false)
      ((update settings (Kubectl.cluster access) names version dryRun).runOn
        session).2.cluster := by
  obtain ⟨log, message, hupdate⟩ :=
    runOn_update settings (Kubectl.cluster access) names version dryRun session
  rw [hupdate]
  apply mapM_guarded _ (nodup_namedKinds names) (session.noting log)
  intro kind session
  cases kind
  obtain ⟨before, behind, hone⟩ :=
    runOn_updateResult settings (Kubectl.cluster access) version dryRun session .kubeProxy
  rw [hone]
  exact apply_guarded (Catalog.kubeProxy settings) access version dryRun (session.noting before)

end Summary

namespace Cli

/-- How a command runs the command behind the cluster. -/
theorem runCommand_runs (command : Command) (arguments : Arguments) (config : Config)
    (kubeconfig : Option Path) (session : Session Transcript) :
    ∃ calls, session.cluster.Runs
        ((runCommand command arguments config kubeconfig).runOn session).2.cluster calls ∧
      LineRuns (command = .update ∧ arguments.approve = true) session.cluster calls := by
  have hversion : versionCall.verb? = some "version" := by decide
  have hchecked := runs_checkClient session
  unfold runCommand
  rw [Task.runOn_bind]
  revert hchecked
  rcases checkClient.runOn session with ⟨outcome, middle⟩
  intro hchecked
  -- whatever is guarded behind the check is a whole command line
  have hline : ∀ after, middle.cluster.Guarded (command = .update ∧ arguments.approve = true)
      after → ∃ calls, session.cluster.Runs after calls ∧
        LineRuns (command = .update ∧ arguments.approve = true) session.cluster calls := by
    rintro after ⟨calls, hruns, hguarded⟩
    exact ⟨versionCall :: calls, hchecked.trans hruns, .checked hversion hchecked hguarded⟩
  cases outcome with
  | error fault => exact hline _ (.refl _ middle.cluster)
  | ok checked =>
    apply hline
    dsimp only
    cases arguments.addons with
    | empty => exact .refl _ middle.cluster
    | text list =>
      cases command with
      | check =>
        dsimp only
        rw [Task.runOn_bind, Task.runOn_lift]
        exact Summary.check_guarded _ _ _ _ middle _
      | update =>
        dsimp only
        rw [Task.runOn_bind, Task.runOn_lift]
        obtain ⟨calls, hruns, hguarded⟩ := Summary.update_guarded
          (Catalog.ofSettings config.addonSettings) (accessOf config kubeconfig) (addonNames list)
          arguments.version (!arguments.approve) middle
        refine ⟨calls, hruns, hguarded.mono fun hdry ↦ ⟨rfl, ?_⟩⟩
        rw [← Bool.not_not arguments.approve, hdry]
        rfl

theorem work_runs (command : Command) (arguments : Arguments) (config : Config)
    (environment : Environment) (accounts : Accounts) (session : Session Transcript) :
    ∃ calls, session.cluster.Runs
        ((work command arguments config environment accounts).runOn session).2.cluster calls ∧
      LineRuns (command = .update ∧ arguments.approve = true) session.cluster calls := by
  unfold work
  rw [Task.runOn_bind, Task.runOn_ofExcept]
  cases config.kubeconfigPath environment accounts with
  | error fault => exact ⟨[], .refl _, .none⟩
  | ok kubeconfig =>
    dsimp only
    rw [Task.runOn_bind, noteKubeconfig, Task.runOn_log]
    exact runCommand_runs command arguments config kubeconfig (session.noting _)

theorem transcript_ofWork (session : Session Transcript)
    (outcome : Except Fault (List Item × Nat)) :
    (Record.ofWork session outcome).transcript = session.cluster := by
  cases outcome with
  | ok report => rfl
  | error fault =>
    unfold Record.ofWork
    dsimp only
    split
    · rfl
    · rfl

/-- What a console shows or refuses comes behind all runs. -/
theorem transcript_run (words : List String) (surroundings : Surroundings) (replies : List Reply) :
    (run words surroundings replies).transcript =
      (carryOut words surroundings replies).transcript := by
  unfold run Record.printed
  split
  · rfl
  · rfl

/-- How a command line runs the command behind the cluster. -/
theorem run_runs (words : List String) (surroundings : Surroundings) (replies : List Reply) :
    ∃ calls, Transcript.Runs { replies } (run words surroundings replies).transcript calls ∧
      LineRuns (∃ arguments, parse words = .ok (.update, arguments) ∧ arguments.approve = true)
        { replies } calls := by
  rw [transcript_run]
  unfold carryOut
  dsimp only
  cases hparse : parse words with
  | error stop => exact ⟨[], .refl _, .none⟩
  | ok found =>
    obtain ⟨command, arguments⟩ := found
    dsimp only
    cases configure arguments surroundings with
    | error fault =>
      dsimp only
      split
      · exact ⟨[], .refl _, .none⟩
      · exact ⟨[], .refl _, .none⟩
    | ok configured =>
      obtain ⟨config, environment⟩ := configured
      obtain ⟨calls, hruns, hline⟩ :=
        work_runs command arguments config environment surroundings.accounts
          (startOf config surroundings replies)
      refine ⟨calls, ?_, ?_⟩
      · change Transcript.Runs _
          (Record.ofWork (Task.runOn _ _).2 (Task.runOn _ _).1).transcript calls
        rw [transcript_ofWork]
        exact hruns
      · cases hline with
        | none => exact .none
        | checked hversion hmiddle hguarded =>
          refine .checked hversion hmiddle (hguarded.mono ?_)
          rintro ⟨rfl, happrove⟩
          exact ⟨arguments, rfl, happrove⟩

/-- A document that is offered behind one run stands in the second reply. -/
theorem reply_of_offers {replies : List Reply} {middle : Transcript} {version : Call}
    {document : Json} (hmiddle : Transcript.Runs { replies } middle [version])
    (h : middle.Offers document) :
    ∃ output errors fields, Reply.result none (replies[1]?.getD .silent) =
      .ok ⟨0, output, errors⟩ ∧ Json.parse output = .ok (.obj fields) := by
  obtain ⟨output, errors, hreply, hparse, fields, rfl⟩ := h
  refine ⟨output, errors, fields, ?_, hparse⟩
  rw [← hreply, Transcript.nextResult, hmiddle.replies_eq, List.headD_eq_head?_getD,
    List.head?_drop]
  rfl

/-- A command line sends a DaemonSet once at most.  It does so only when its words name the update
and approve it, and behind a run that read a DaemonSet: the reply to that run ended well, with an
object. -/
theorem run_writes_with_approval (words : List String) (surroundings : Surroundings)
    (replies : List Reply) :
    let calls := (run words surroundings replies).transcript.calls
    (calls.filter (·.verb? = some "replace")).length ≤ 1 ∧
      ∀ (front : List Call) (replace : Call) (behind : List Call),
        calls = front ++ replace :: behind → replace.verb? = some "replace" →
          "update" ∈ words ∧
          (∃ word ∈ words, 4 ≤ word.toList.length ∧ word.toList <+: "--approve".toList) ∧
          ∃ (place : Nat) (get : Call) (output errors : String) (fields : List (String × Json)),
            front[place]? = some get ∧ get.verb? = some "get" ∧
            Reply.result get.body (replies[place]?.getD .silent) = .ok ⟨0, output, errors⟩ ∧
            Json.parse output = .ok (.obj fields) := by
  intro calls
  obtain ⟨made, hruns, hline⟩ := run_runs words surroundings replies
  have hcalls : calls = made := hruns.calls_eq
  rw [hcalls]
  refine ⟨hline.length_filter_le, fun front replace behind hmade hreplace ↦ ?_⟩
  obtain ⟨⟨arguments, hparse, happrove⟩, -, version, get, middle, fetched, rfl, hget, hnone,
    hmiddle, hoffers⟩ := hline.sends hmade hreplace
  obtain ⟨hupdate, hword⟩ := words_of_approval hparse happrove
  obtain ⟨output, errors, fields, hreply, hobject⟩ := reply_of_offers hmiddle hoffers
  rw [← hnone] at hreply
  exact ⟨hupdate, hword, 1, get, output, errors, fields, rfl, hget, hreply, hobject⟩

/-- An update that a short form of the word approves reads the DaemonSet and sends it. -/
theorem run_writes_with_short_approval :
    let daemonSet := Json.obj [("spec", .obj [("template", .obj [("spec", .obj
      [("containers", .arr [.obj [("image", .str "registry:v1.17")]])])])])]
    let words := ["update", "-k", "1.20", "--ap"]
    let replies := [.silent, .finished 0 (.text daemonSet.line) "", .silent]
    let calls := (run words { environment := [] } replies).transcript.calls
    ∃ (front : List Call) (replace : Call) (behind : List Call),
      calls = front ++ replace :: behind ∧ replace.verb? = some "replace" ∧
      "update" ∈ words ∧
      (∃ word ∈ words, 4 ≤ word.toList.length ∧ word.toList <+: "--approve".toList) ∧
      ∃ (place : Nat) (get : Call) (output errors : String) (fields : List (String × Json)),
        front[place]? = some get ∧ get.verb? = some "get" ∧
        Reply.result get.body (replies[place]?.getD .silent) = .ok ⟨0, output, errors⟩ ∧
        Json.parse output = .ok (.obj fields) := by
  intro daemonSet words replies calls
  have hverbs : calls.map Call.verb? = [some "version", some "get", some "replace"] := by
    decide +kernel
  obtain ⟨version, others, hversion, -, hothers⟩ := List.map_eq_cons_iff.mp hverbs
  obtain ⟨get, last, hget, -, hlast⟩ := List.map_eq_cons_iff.mp hothers
  obtain ⟨replace, hreplace, hverb⟩ := List.map_eq_singleton_iff.mp hlast
  have hcalls : calls = [version, get] ++ replace :: [] := by
    rw [hversion, hget, hreplace]
    rfl
  have hwrites := run_writes_with_approval words { environment := [] } replies
  exact ⟨[version, get], replace, [], hcalls, hverb, hwrites.2 _ _ _ hcalls hverb⟩

end Cli

end AddonUpkeep
