import AddonUpkeep.Proofs.Addon.Spelling
import AddonUpkeep.Proofs.Cli.Escaping
import AddonUpkeep.Proofs.Cli.Writing
import AddonUpkeep.Proofs.Cluster.Calls
import AddonUpkeep.Proofs.Config.Effective

/-!
# The commands of a command line

A command line whose configuration fails runs no command.  Any other asks for the version of the
command, and then reads a DaemonSet and replaces it.  It may stop early, but it makes no other runs,
and the last two are on the cluster that the configuration names.
-/

namespace AddonUpkeep

open AddonUpkeep.Kubectl

namespace KubeProxy

/-- The name and the namespace of an addon are texts. -/
def HasTexts (proxy : KubeProxy) : Prop :=
  ∃ name scope : String, proxy.name = .str name ∧ proxy.scope = .str scope

/-- The runs of an addon on its DaemonSet: it is read when its name and its namespace are texts, and
replaced once at most behind that. -/
inductive AddonCalls (proxy : KubeProxy) (access : Access) : List Call → Prop
  | unread (h : ¬ proxy.HasTexts) : AddonCalls proxy access []
  | read {name scope : String} (hname : proxy.name = .str name)
      (hscope : proxy.scope = .str scope) :
      AddonCalls proxy access [fetchCall access name scope]
  | replaced {name scope target : String} {daemonSet : Json} (hname : proxy.name = .str name)
      (hscope : proxy.scope = .str scope) :
      AddonCalls proxy access [fetchCall access name scope, replaceCall access target daemonSet]

theorem AddonCalls.ne_nil_iff {proxy : KubeProxy} {access : Access} {calls : List Call}
    (h : AddonCalls proxy access calls) : calls ≠ [] ↔ proxy.HasTexts := by
  cases h with
  | unread hnone => exact iff_of_false (absurd rfl) hnone
  | read hname hscope => exact iff_of_true (List.cons_ne_nil _ _) ⟨_, _, hname, hscope⟩
  | replaced hname hscope => exact iff_of_true (List.cons_ne_nil _ _) ⟨_, _, hname, hscope⟩

/-- The runs of an addon start the row of the reading and the replacement. -/
theorem AddonCalls.prefix_of {proxy : KubeProxy} {access : Access} {calls : List Call}
    (h : AddonCalls proxy access calls) :
    ∃ name scope target document,
      calls <+: [fetchCall access name scope, replaceCall access target document] ∧
      (calls ≠ [] → proxy.name = .str name ∧ proxy.scope = .str scope) := by
  cases h with
  | unread hnone => exact ⟨"", "", "", .null, List.nil_prefix, absurd rfl⟩
  | @read name scope hname hscope =>
    exact ⟨name, scope, "", .null, ⟨_, rfl⟩, fun _ ↦ ⟨hname, hscope⟩⟩
  | @replaced name scope target daemonSet hname hscope =>
    exact ⟨name, scope, target, daemonSet, List.prefix_rfl, fun _ ↦ ⟨hname, hscope⟩⟩

theorem asText?_of_not_hasTexts {proxy : KubeProxy} (h : ¬ proxy.HasTexts) :
    proxy.name.asText? = none ∨ proxy.scope.asText? = none := by
  by_contra hsome
  obtain ⟨hname, hscope⟩ := not_or.mp hsome
  obtain ⟨name, hname⟩ := Option.ne_none_iff_exists'.mp hname
  obtain ⟨scope, hscope⟩ := Option.ne_none_iff_exists'.mp hscope
  exact h ⟨name, scope, asText?_eq_some_iff.mp hname, asText?_eq_some_iff.mp hscope⟩

/-- Reading the DaemonSet of an addon runs the command when its name and its namespace are texts. -/
theorem fetch_runs (proxy : KubeProxy) (access : Access) (session : Session Transcript) :
    let read := (fetch access proxy.name proxy.scope).runOn session
    (∃ name scope, proxy.name = .str name ∧ proxy.scope = .str scope ∧
      session.cluster.Runs read.2.cluster [fetchCall access name scope]) ∨
    (¬ proxy.HasTexts ∧ read.2 = session ∧ ∃ fault, read.1 = .error fault) := by
  intro read
  by_cases htexts : proxy.HasTexts
  · obtain ⟨name, scope, hname, hscope⟩ := htexts
    refine .inl ⟨name, scope, hname, hscope, ?_⟩
    have hread : read.2.cluster = session.cluster.ran (fetchCall access name scope) := by
      change ((fetch access proxy.name proxy.scope).runOn session).2.cluster = _
      rw [hname, hscope]
      exact cluster_fetch access name scope session
    rw [hread]
    exact runs_ran _ _
  · obtain ⟨fault, hread⟩ := @fetch_of_no_text access _ _ (asText?_of_not_hasTexts htexts) session
    exact .inr ⟨htexts, congrArg Prod.snd hread, fault, congrArg Prod.fst hread⟩

/-- Behind the reading, an update leaves the client alone or replaces what was read. -/
theorem cluster_apply {σ : Type} (proxy : KubeProxy) (cluster : Cluster σ) (version : String)
    (dryRun : Bool) (session : Session σ) :
    let read := (cluster.fetch proxy.name proxy.scope).runOn session
    let after := ((proxy.apply cluster version dryRun).runOn session).2.cluster
    after = read.2.cluster ∨ ∃ daemonSet updated log, read.1 = .ok daemonSet ∧
      after = ((cluster.replace updated).runOn (read.2.noting log)).2.cluster := by
  intro read after
  obtain ⟨found, sent, hrun⟩ := runOn_apply proxy cluster version dryRun session
  have hafter : after = _ := congrArg (·.2.cluster) hrun
  rw [hafter]
  cases hproposal : proxy.proposal read.2.host version read.1 with
  | error fault => exact .inl rfl
  | ok proposed =>
    cases proposed with
    | none => exact .inl rfl
    | some updated =>
      obtain ⟨daemonSet, hread, -⟩ := proposal_eq_some_iff.mp hproposal
      cases dryRun with
      | true => exact .inl rfl
      | false =>
        unfold carriesOut
        dsimp only
        rw [if_neg (by decide)]
        cases hindrance read.2.host version read.1 with
        | some fault => exact .inl rfl
        | none =>
          refine .inr ⟨daemonSet, updated, found, hread, ?_⟩
          dsimp only
          rcases (cluster.replace updated).runOn (read.2.noting found) with ⟨answer, last⟩
          cases answer with
          | error fault => rfl
          | ok document => rfl

theorem isUpToDate_calls (proxy : KubeProxy) (access : Access) (version : String)
    (session : Session Transcript) :
    ∃ calls, AddonCalls proxy access calls ∧ session.cluster.Runs
      ((proxy.isUpToDate (cluster access) version).runOn session).2.cluster calls := by
  rw [cluster_isUpToDate]
  rcases fetch_runs proxy access session with
    ⟨name, scope, hname, hscope, hruns⟩ | ⟨hnone, hread, -⟩
  · exact ⟨_, .read hname hscope, hruns⟩
  · refine ⟨[], .unread hnone, ?_⟩
    change session.cluster.Runs ((fetch access proxy.name proxy.scope).runOn session).2.cluster []
    rw [hread]
    exact .refl _

theorem apply_calls (proxy : KubeProxy) (access : Access) (version : String) (dryRun : Bool)
    (session : Session Transcript) :
    ∃ calls, AddonCalls proxy access calls ∧ session.cluster.Runs
      ((proxy.apply (cluster access) version dryRun).runOn session).2.cluster calls := by
  have happly := cluster_apply proxy (cluster access) version dryRun session
  rw [show (cluster access).fetch = fetch access from rfl] at happly
  rcases fetch_runs proxy access session with
    ⟨name, scope, hname, hscope, hruns⟩ | ⟨hnone, hread, fault, hfault⟩
  · rcases happly with hafter | ⟨daemonSet, updated, log, -, hafter⟩
    · rw [hafter]
      exact ⟨_, .read hname hscope, hruns⟩
    · rw [hafter]
      obtain ⟨calls, rfl | ⟨target, rfl⟩, hsending⟩ := replace_runs access updated
        (((fetch access proxy.name proxy.scope).runOn session).2.noting log)
      · exact ⟨_, .read hname hscope, hruns.trans hsending⟩
      · exact ⟨_, .replaced hname hscope, hruns.trans hsending⟩
  · rcases happly with hafter | ⟨daemonSet, updated, log, hok, -⟩
    · rw [hafter, hread]
      exact ⟨[], .unread hnone, .refl _⟩
    · cases hfault.symm.trans hok

end KubeProxy

namespace Cli

open AddonUpkeep.KubeProxy AddonUpkeep.Summary

variable {words : List String} {surroundings : Surroundings} {replies : List Reply}
  {command : Command} {arguments : Arguments} {config : Config} {environment : Environment}
  {kubeconfig : Option Path}

/-- The command works, as far as the first reply tells. -/
def Works (replies : List Reply) : Prop :=
  ∃ output errors, Reply.result none (replies.headD .silent) = .ok ⟨0, output, errors⟩

/-- The arguments have a list of addons, and some name of it stands for one. -/
def Resolves (arguments : Arguments) : Prop :=
  ∃ list, arguments.addons = .text list ∧ Named (addonNames list)

/-- The kube-proxy addon that a configuration describes. -/
def proxyOf (config : Config) : KubeProxy :=
  Catalog.kubeProxy (Catalog.ofSettings config.addonSettings)

/-- Work that comes to the task of an addon makes the runs of the task when the addon is named, and
none otherwise. -/
theorem runs_of_comesTo {α : Type} {names : List String} {calls : α → Bool}
    {task : Task Transcript α} {work : Work Transcript (Summary α)} {proxy : KubeProxy}
    {access : Access} (h : ComesTo names calls task work)
    (htask : ∀ session : Session Transcript, ∃ made, AddonCalls proxy access made ∧
      session.cluster.Runs (task.runOn session).2.cluster made)
    (session : Session Transcript) :
    ∃ made, session.cluster.Runs (work.runOn session).2.cluster made ∧
      (Named names → AddonCalls proxy access made) ∧ (¬ Named names → made = []) := by
  by_cases hnamed : Named names
  · obtain ⟨before, behind, message, hwork⟩ := h.named hnamed session
    obtain ⟨made, hmade, hruns⟩ := htask (session.noting before)
    rw [hwork]
    exact ⟨made, hruns, fun _ ↦ hmade, fun hnone ↦ absurd hnamed hnone⟩
  · obtain ⟨log, message, hwork⟩ := h.unnamed hnamed session
    rw [hwork]
    exact ⟨[], .refl _, fun hsome ↦ absurd hsome hnamed, fun _ ↦ rfl⟩

/-- Behind a command that works, the runs of the addon follow when some name stands for it. -/
theorem calls_behind_client {session middle : Session Transcript}
    (hclient : checkClient.runOn session = (.ok (), middle)) (command : Command)
    (arguments : Arguments) (config : Config) (kubeconfig : Option Path) :
    ∃ made, middle.cluster.Runs
        ((runCommand command arguments config kubeconfig).runOn session).2.cluster made ∧
      (Resolves arguments → AddonCalls (proxyOf config) (accessOf config kubeconfig) made) ∧
      (¬ Resolves arguments → made = []) := by
  cases hnames : arguments.addons with
  | empty =>
    rw [runCommand_of_empty hclient hnames]
    refine ⟨[], .refl _, ?_, fun _ ↦ rfl⟩
    rintro ⟨list, hlist, -⟩
    cases hnames.symm.trans hlist
  | text list =>
    have hresolves : Resolves arguments ↔ Named (addonNames list) := by
      constructor
      · rintro ⟨list', hlist, hnamed⟩
        obtain rfl : list = list' := Value.text.inj (hnames.symm.trans hlist)
        exact hnamed
      · exact fun hnamed ↦ ⟨list, hnames, hnamed⟩
    rw [hresolves]
    unfold runCommand
    rw [Task.runOn_bind_of_ok hclient, hnames]
    cases command with
    | check =>
      dsimp only
      rw [Task.runOn_bind, Task.runOn_lift]
      exact runs_of_comesTo (check_comesTo _ _ _ _) (isUpToDate_calls _ _ _) middle
    | update =>
      dsimp only
      rw [Task.runOn_bind, Task.runOn_lift]
      exact runs_of_comesTo (update_comesTo _ _ _ _ _) (apply_calls _ _ _ _) middle

/-- A command asks for the version of the command behind the cluster.  When that works and some name
stands for an addon, the runs of the addon follow, and otherwise none. -/
theorem runCommand_calls (command : Command) (arguments : Arguments) (config : Config)
    (kubeconfig : Option Path) (session : Session Transcript) :
    ∃ made, session.cluster.Runs
        ((runCommand command arguments config kubeconfig).runOn session).2.cluster
        (versionCall :: made) ∧
      (Works session.cluster.replies ∧ Resolves arguments →
        AddonCalls (proxyOf config) (accessOf config kubeconfig) made) ∧
      (¬ (Works session.cluster.replies ∧ Resolves arguments) → made = []) := by
  have hworks : (checkClient.runOn session).1 = .ok () ↔ Works session.cluster.replies :=
    checkClient_eq_ok_iff session
  have hchecked := runs_checkClient session
  rcases hclient : checkClient.runOn session with ⟨outcome, middle⟩
  rw [hclient] at hworks hchecked
  cases outcome with
  | error fault =>
    have hbroken : ¬ Works session.cluster.replies := fun h ↦ nomatch hworks.mpr h
    refine ⟨[], ?_, fun h ↦ absurd h.1 hbroken, fun _ ↦ rfl⟩
    unfold runCommand
    rw [Task.runOn_bind_of_error hclient]
    exact hchecked
  | ok checked =>
    obtain ⟨made, hruns, hcalls, hnone⟩ :=
      calls_behind_client hclient command arguments config kubeconfig
    exact ⟨made, hchecked.trans hruns, fun h ↦ hcalls h.2, fun h ↦ hnone fun hresolves ↦
      h ⟨hworks.mp rfl, hresolves⟩⟩

/-- The start of the words of a run on the cluster that arguments and their surroundings name. -/
def startWords (arguments : Arguments) (surroundings : Surroundings) (kubeconfig : Option Path) :
    List String :=
  "kubectl" :: (optionWords "--kubeconfig" (kubeconfig.map Path.text) ++
    optionWords "--context" (chosen arguments.context surroundings Config.contextVariable))

theorem startWords_eq (heffective : Effective arguments surroundings config)
    (kubeconfig : Option Path) :
    startWords arguments surroundings kubeconfig =
      "kubectl" :: (accessOf config kubeconfig).options := by
  rw [options_eq]
  unfold startWords
  rw [← heffective.context_eq]
  rfl

theorem calls_of_stop (replies : List Reply) {stop : Stop} (hparse : parse words = .error stop) :
    (run words surroundings replies).transcript.calls = [] := by
  rw [transcript_run, carryOut_of_stop hparse]

/-- Without a configuration, or without the path of its kubeconfig file, nothing is run. -/
theorem calls_of_fault (replies : List Reply) {fault : Fault}
    (hparse : parse words = .ok (command, arguments))
    (hfault : configure arguments surroundings = .error fault ∨
      chosenKubeconfig arguments surroundings = .error fault) :
    (run words surroundings replies).transcript.calls = [] := by
  rw [transcript_run]
  cases hconfigure : configure arguments surroundings with
  | error other =>
    unfold carryOut
    simp only [hparse, hconfigure]
    split
    · rfl
    · rfl
  | ok configured =>
    obtain ⟨config, environment⟩ := configured
    obtain ⟨-, -, hpath⟩ := effective_of_configure hconfigure
    have hnopath : config.kubeconfigPath environment surroundings.accounts = .error fault := by
      rcases hfault with hfault | hfault
      · cases hconfigure.symm.trans hfault
      · exact hpath.trans hfault
    obtain ⟨log, hrun⟩ := carryOut_of_work replies hparse hconfigure
    rw [hrun, hnopath]
    dsimp only
    rw [transcript_ofWork]
    rfl

/-- With a configuration, the runs are those of the command. -/
theorem calls_of_configure (replies : List Reply)
    (hparse : parse words = .ok (command, arguments))
    (hconfigure : configure arguments surroundings = .ok (config, environment))
    (hpath : config.kubeconfigPath environment surroundings.accounts = .ok kubeconfig) :
    ∃ made, (run words surroundings replies).transcript.calls = versionCall :: made ∧
      (Works replies ∧ Resolves arguments →
        AddonCalls (proxyOf config) (accessOf config kubeconfig) made) ∧
      (¬ (Works replies ∧ Resolves arguments) → made = []) := by
  obtain ⟨log, hrun⟩ := carryOut_of_work replies hparse hconfigure
  obtain ⟨made, hruns, hcalls, hnone⟩ := runCommand_calls command arguments config kubeconfig
    ((startOf config surroundings replies).noting log)
  refine ⟨made, ?_, hcalls, hnone⟩
  rw [transcript_run, hrun, hpath]
  dsimp only
  rw [transcript_ofWork]
  exact hruns.calls_eq

/-- The runs start the row of the version, the reading and the replacement. -/
theorem calls_prefix (replies : List Reply)
    (hparse : parse words = .ok (command, arguments))
    (hconfigure : configure arguments surroundings = .ok (config, environment))
    (hpath : config.kubeconfigPath environment surroundings.accounts = .ok kubeconfig) :
    let calls := (run words surroundings replies).transcript.calls
    let access := accessOf config kubeconfig
    calls ≠ [] ∧
    (2 ≤ calls.length ↔ Works replies ∧ Resolves arguments ∧ (proxyOf config).HasTexts) ∧
    ∃ name scope target document,
      calls <+: [versionCall, fetchCall access name scope, replaceCall access target document] ∧
      (2 ≤ calls.length →
        (proxyOf config).name = .str name ∧ (proxyOf config).scope = .str scope) := by
  intro calls access
  obtain ⟨made, (hcalls : calls = versionCall :: made), hmade, hnone⟩ :=
    calls_of_configure replies hparse hconfigure hpath
  have hsecond : 2 ≤ calls.length ↔ made ≠ [] := by
    rw [hcalls, List.length_cons, ← List.length_pos_iff_ne_nil]
    omega
  rw [hsecond, hcalls]
  refine ⟨List.cons_ne_nil _ _, ?_⟩
  by_cases hready : Works replies ∧ Resolves arguments
  · obtain ⟨name, scope, target, document, hprefix, htexts⟩ := (hmade hready).prefix_of
    rw [(hmade hready).ne_nil_iff] at htexts ⊢
    rw [← and_assoc, and_iff_right hready]
    exact ⟨Iff.rfl, name, scope, target, document, (List.prefix_cons_inj _).mpr hprefix, htexts⟩
  · obtain rfl := hnone hready
    refine ⟨iff_of_false (absurd rfl) fun h ↦ hready ⟨h.1, h.2.1⟩, ?_⟩
    exact ⟨"", "", "", .null, ⟨_, rfl⟩, absurd rfl⟩

/-- The runs of a command line.  Without a configuration there are none.  Otherwise they start the
row of three: the version of the command is asked for, the DaemonSet of the configured name and
namespace is read, and it is replaced.  Both runs on the cluster start with the same words, which
name the kubeconfig file and the context that count.  The timeout is the one that counts, which is
positive, and 60 at least for the replacement.  The second run is made exactly when the command
works and some name stands for an addon whose name and namespace are texts. -/
theorem run_calls (words : List String) (surroundings : Surroundings) (replies : List Reply) :
    let calls := (run words surroundings replies).transcript.calls
    (∀ stop, parse words = .error stop → calls = []) ∧
    ∀ command arguments, parse words = .ok (command, arguments) →
      (∀ fault, configure arguments surroundings = .error fault ∨
        chosenKubeconfig arguments surroundings = .error fault → calls = []) ∧
      ∀ config environment kubeconfig,
        configure arguments surroundings = .ok (config, environment) →
        chosenKubeconfig arguments surroundings = .ok kubeconfig →
        Effective arguments surroundings config ∧ 0 < config.kubectlTimeout ∧ calls ≠ [] ∧
        (2 ≤ calls.length ↔ Works replies ∧ Resolves arguments ∧ (proxyOf config).HasTexts) ∧
        ∃ name scope target document,
          let start := startWords arguments surroundings kubeconfig
          calls <+: [
            ⟨["kubectl", "version", "--client"], 10, none⟩,
            ⟨start ++ ["get", "daemonset", name, "-n", scope, "-o", "json"],
              config.kubectlTimeout, none⟩,
            ⟨start ++ ["replace", "-f", fileName, "-n", target, "-o", "json"],
              max config.kubectlTimeout 60, some document⟩] ∧
          (2 ≤ calls.length →
            (proxyOf config).name = .str name ∧ (proxyOf config).scope = .str scope) := by
  intro calls
  refine ⟨fun stop ↦ calls_of_stop replies, fun command arguments hparse ↦
    ⟨fun fault ↦ calls_of_fault replies hparse, ?_⟩⟩
  intro config environment kubeconfig hconfigure hchosen
  obtain ⟨heffective, hpositive, hpath⟩ := effective_of_configure hconfigure
  obtain ⟨hnonempty, hsecond, name, scope, target, document, hprefix, htexts⟩ :=
    calls_prefix replies hparse hconfigure (hpath.trans hchosen)
  refine ⟨heffective, hpositive, hnonempty, hsecond, name, scope, target, document.line, ?_, htexts⟩
  rw [startWords_eq heffective]
  exact hprefix

/-- A kubeconfig file that the words name, a context in the environment file, and a timeout that the
environment has and the file does not change. -/
theorem run_calls_of_three_sources :
    let daemonSet := Json.obj [("spec", .obj [("template", .obj [("spec", .obj
      [("containers", .arr [.obj [("image", .str "registry:v1.17")]])])])])]
    let words := ["--kubeconfig", "~/config", "update", "-k", "1.20", "--approve"]
    let surroundings : Surroundings := {
      environment := [("HOME", "/home/tester"), ("KUBECONFIG", "/etc/config"),
        ("EKSADDONS_KUBECTL_TIMEOUT", "5")]
      envFile := some "EKSADDONS_CONTEXT=east\nEKSADDONS_KUBECTL_TIMEOUT=90" }
    let replies := [.silent, .finished 0 (.text daemonSet.line) "", .silent]
    let start := ["kubectl", "--kubeconfig", "/home/tester/config", "--context", "east"]
    ∃ name scope target document, (run words surroundings replies).transcript.calls = [
      ⟨["kubectl", "version", "--client"], 10, none⟩,
      ⟨start ++ ["get", "daemonset", name, "-n", scope, "-o", "json"], 5, none⟩,
      ⟨start ++ ["replace", "-f", fileName, "-n", target, "-o", "json"], 60, some document⟩] := by
  intro daemonSet words surroundings replies start
  let arguments : Arguments := {
    kubeconfig := some (.text "~/config")
    controlPlaneVersion := some (.text "1.20")
    approve := true }
  have hparse : parse words = .ok (.update, arguments) :=
    toOption_eq_some_iff.mp (by decide +kernel)
  obtain ⟨config, environment, kubeconfig, hconfigure, hchosen, htimeout, hstart⟩ :
      ∃ config environment kubeconfig,
        configure arguments surroundings = .ok (config, environment) ∧
        chosenKubeconfig arguments surroundings = .ok kubeconfig ∧
        config.kubectlTimeout = 5 ∧ startWords arguments surroundings kubeconfig = start := by
    have hread : (match configure arguments surroundings,
          chosenKubeconfig arguments surroundings with
        | .ok (config, _), .ok kubeconfig =>
          some (config.kubectlTimeout, startWords arguments surroundings kubeconfig)
        | _, _ => none) = some (5, start) := by decide +kernel
    split at hread
    · next config environment kubeconfig hconfigure hchosen =>
      obtain ⟨htimeout, hstart⟩ := Prod.mk.inj (Option.some.inj hread)
      exact ⟨config, environment, kubeconfig, hconfigure, hchosen, htimeout, hstart⟩
    · cases hread
  obtain ⟨-, hparsed⟩ := run_calls words surroundings replies
  obtain ⟨-, -, -, -, name, scope, target, document, hprefix, -⟩ :=
    (hparsed _ _ hparse).2 config environment kubeconfig hconfigure hchosen
  have hlength : (run words surroundings replies).transcript.calls.length = 3 := by decide +kernel
  rw [htimeout, hstart] at hprefix
  exact ⟨name, scope, target, document, hprefix.eq_of_length hlength⟩

end Cli

end AddonUpkeep
