import AddonUpkeep.Cli.Run
import AddonUpkeep.Proofs.Addon.Sessions
import AddonUpkeep.Proofs.Config.Agreement

/-!
# Command lines at a level of the log

The log level of a run is a variable of the environment, unless the command line asks for more
output.  It shows in the log of the run and in nothing else, as long as the rest of the environment
is the same.  An environment file can copy the level into another variable, and the two runs then
differ in what that variable tells.
-/

namespace AddonUpkeep

open AddonUpkeep.Text

/-- A log level that is known, in any case of its letters. -/
def IsLevel (name : String) : Prop := logLevelNames.contains (lower name) = true

namespace Config

/-- The variables that a run looks up, the log level apart. -/
def otherVariables : List String :=
  [kubeconfigVariable, contextVariable, addonsFileVariable, timeoutVariable, homeVariable]

/-- Two configurations that are the same but for the log level, which is known in both. -/
structure SameButLevel (one two : Config) : Prop where
  same : two = { one with logLevel := two.logLevel }
  first : logLevelNames.contains one.logLevel = true
  second : logLevelNames.contains two.logLevel = true

theorem SameButLevel.validate {one two : Config} (h : one.SameButLevel two) :
    two.validate = one.validate := by
  have htimeout : two.kubectlTimeout = one.kubectlTimeout := by rw [h.same]
  unfold Config.validate
  rw [h.first, h.second, htimeout]
  rfl

end Config

namespace Environment

/-- The log level is known when it is told. -/
def HasLevel (environment : Environment) : Prop :=
  ∀ name, environment.get? Config.logLevelVariable = some name → IsLevel name

/-- A run finds the same in two environments, known levels of the log apart. -/
structure SameButLevel (one two : Environment) : Prop where
  same : ∀ name ∈ Config.otherVariables, one.get? name = two.get? name
  first : one.HasLevel
  second : two.HasLevel

theorem HasLevel.getD {environment : Environment} (h : environment.HasLevel) {given : String}
    (hgiven : IsLevel given) :
    IsLevel ((environment.get? Config.logLevelVariable).getD given) := by
  cases hname : environment.get? Config.logLevelVariable with
  | none => exact hgiven
  | some name => exact h name hname

/-- The configurations that are made in two environments in which a run finds the same. -/
theorem SameButLevel.inEnvironment {one two : Environment} (h : SameButLevel one two)
    {given : Config} (hgiven : IsLevel given.logLevel) (files : FileTree) :
    EndAlike Config.SameButLevel (given.inEnvironment one files)
      (given.inEnvironment two files) := by
  have hkubeconfig := h.same Config.kubeconfigVariable (by simp [Config.otherVariables])
  have hcontext := h.same Config.contextVariable (by simp [Config.otherVariables])
  have haddonsFile := h.same Config.addonsFileVariable (by simp [Config.otherVariables])
  have htimeout := h.same Config.timeoutVariable (by simp [Config.otherVariables])
  unfold Config.inEnvironment
  rw [hkubeconfig, hcontext, haddonsFile, htimeout]
  apply (endAlike_of_eq _).bind
  rintro timeout _ rfl
  apply (endAlike_of_eq _).bind
  rintro settings _ rfl
  exact .made ⟨rfl, h.first.getD hgiven, h.second.getD hgiven⟩

/-- Environments that hold known levels of the log, and agree on all other variables. -/
theorem Holding.sameButLevel {level other : String} {one two : Environment}
    (h : Holding Config.logLevelVariable level other one two) (hlevel : IsLevel level)
    (hother : IsLevel other) : one.SameButLevel two where
  same name hmem := by
    apply h.agree.get?
    rintro rfl
    revert hmem
    decide
  first name hname := by
    obtain rfl := Option.some.inj (h.first.symm.trans hname)
    exact hlevel
  second name hname := by
    obtain rfl := Option.some.inj (h.second.symm.trans hname)
    exact hother

end Environment

namespace Surroundings

/-- The same surroundings with a log level. -/
def atLevel (surroundings : Surroundings) (level : String) : Surroundings :=
  { surroundings with
    environment := surroundings.environment.put Config.logLevelVariable level }

/-- The environment file copies the log level into another variable. -/
def CopiesLevel (surroundings : Surroundings) : Prop :=
  ∃ text, surroundings.envFile = some text ∧ EnvFile.Copies text Config.logLevelVariable

/-- The surroundings are the same, and so is what a run finds in the environments once they are
completed, known levels of the log apart. -/
structure SameButLevel (one two : Surroundings) : Prop where
  files : one.files = two.files
  accounts : one.accounts = two.accounts
  host : one.host = two.host
  shows : one.shows = two.shows
  environments : EndAlike Environment.SameButLevel (one.environment.withFile one.envFile)
    (two.environment.withFile two.envFile)

variable {one two : Surroundings}

/-- Surroundings that differ in a known log level only, which no other variable copies. -/
theorem sameButLevel_atLevel {surroundings : Surroundings} {level other : String}
    (h : ¬ surroundings.CopiesLevel) (hlevel : IsLevel level) (hother : IsLevel other) :
    (surroundings.atLevel level).SameButLevel (surroundings.atLevel other) where
  files := rfl
  accounts := rfl
  host := rfl
  shows := rfl
  environments := by
    have hput := Environment.holding_put surroundings.environment Config.logLevelVariable
      level other
    have hfile : ∀ text, surroundings.envFile = some text →
        ¬ EnvFile.Copies text Config.logLevelVariable :=
      fun text htext hcopies ↦ h ⟨text, htext, hcopies⟩
    exact (hput.withFile hfile).mono fun _ _ hholding ↦ hholding.sameButLevel hlevel hother

theorem SameButLevel.load (h : one.SameButLevel two) {given : Config}
    (hgiven : IsLevel given.logLevel) :
    EndAlike (fun configured configured' ↦ configured.1.SameButLevel configured'.1 ∧
      configured.2.SameButLevel configured'.2) (given.load one) (given.load two) := by
  unfold Config.load
  rw [h.files]
  apply h.environments.bind
  intro environment environment' henvironment
  apply (henvironment.inEnvironment hgiven two.files).bind
  intro config config' hconfig
  exact .made ⟨hconfig, henvironment⟩

end Surroundings

namespace Cli

open AddonUpkeep.Kubectl

variable {arguments : Arguments}

theorem isLevel_config (arguments : Arguments) : IsLevel arguments.config.logLevel := by
  change logLevelNames.contains (lower "info") = true
  decide +kernel

theorem sameButLevel_adjust {one two : Config} (arguments : Arguments) (h : one.SameButLevel two) :
    (adjust arguments one).SameButLevel (adjust arguments two) := by
  unfold adjust
  cases arguments.verbose with
  | false => exact h
  | true =>
    have hdebug : logLevelNames.contains "debug" = true := by decide
    refine ⟨?_, hdebug, hdebug⟩
    rw [h.same]
    rfl

/-- The configurations of two runs that find the same are the same but for the log level. -/
theorem configure_sameButLevel {one two : Surroundings} (h : one.SameButLevel two)
    (arguments : Arguments) :
    EndAlike (fun configured configured' ↦ configured.1.SameButLevel configured'.1 ∧
      configured.2.SameButLevel configured'.2) (configure arguments one)
      (configure arguments two) := by
  unfold configure
  apply (h.load (isLevel_config arguments)).bind
  rintro ⟨config, environment⟩ ⟨config', environment'⟩ ⟨hconfig, henvironment⟩
  have hadjusted := sameButLevel_adjust arguments hconfig
  dsimp only
  rw [hadjusted.validate]
  apply (endAlike_of_eq _).bind
  intro _ _ _
  exact .made ⟨hadjusted, henvironment⟩

section Work

variable {config config' : Config} {environment environment' : Environment}

/-- Work does not look at the log level. -/
theorem work_sameButLevel (hconfig : config.SameButLevel config')
    (henvironment : environment.SameButLevel environment') (command : Command)
    (arguments : Arguments) (accounts : Accounts) :
    work command arguments config' environment' accounts =
      work command arguments config environment accounts := by
  have hhome := henvironment.same Config.homeVariable (by simp [Config.otherVariables])
  rw [hconfig.same]
  unfold work Config.kubeconfigPath
  rw [hhome]
  rfl

variable {R : Session Transcript → Session Transcript → Prop} {N : Json → Prop}

theorem inStep_runCommand (hR : Akin R (Transcript.Holds N) N) (hN : KubeProxy.KeepsRenewal N)
    (command : Command) (arguments : Arguments) (config : Config) (kubeconfig : Option Path) :
    Task.InStep R (runCommand command arguments config kubeconfig)
      (runCommand command arguments config kubeconfig) := by
  unfold runCommand
  apply (inStep_checkClient hR).bind
  intro _
  dsimp only
  split
  · exact Task.inStep_fail _
  · have haccess := Kubectl.inStep hR (accessOf config kubeconfig)
    split
    · apply Task.InStep.bind (Summary.inStep_check hR.toAlongside hN haccess _ _ _)
      intro summary
      exact Task.inStep_pure _
    · apply Task.InStep.bind (Summary.inStep_update hR.toAlongside hN haccess _ _ _ _)
      intro summary
      exact Task.inStep_pure _

/-- Work does the same in two sessions that are akin. -/
theorem inStep_work (hR : Akin R (Transcript.Holds N) N) (hN : KubeProxy.KeepsRenewal N)
    (command : Command) (arguments : Arguments) (config : Config) (environment : Environment)
    (accounts : Accounts) :
    Task.InStep R (work command arguments config environment accounts)
      (work command arguments config environment accounts) := by
  unfold work
  apply (Task.inStep_ofExcept _).bind
  intro kubeconfig
  apply (Task.inStep_log hR.toAlongside _ _).bind
  intro _
  exact inStep_runCommand hR hN command arguments config kubeconfig

end Work

/-- The level of a run, when the run comes to have a configuration. -/
def levelIn (words : List String) (surroundings : Surroundings) : LogLevel :=
  match parse words with
  | .error _ => .info
  | .ok (_, arguments) => match configure arguments surroundings with
    | .error _ => .info
    | .ok (config, _) => levelOf config

/-- The host of a run. -/
def hostIn (words : List String) (surroundings : Surroundings) : Host :=
  surroundings.host.withLevel (levelIn words surroundings)

/-- The record with those entries of its log that are at a level or above. -/
def Record.cut (record : Record) (level : LogLevel) : Record :=
  { record with log := record.log.atLeast level }

theorem Record.ofWork_cut (level : LogLevel) (host : Host) (session : Session Transcript)
    (outcome : Except Fault (List Item × Nat)) :
    Record.ofWork ⟨session.cluster, session.log.atLeast level, host⟩ outcome =
      (Record.ofWork session outcome).cut level := by
  cases outcome with
  | ok report => rfl
  | error fault =>
    unfold Record.ofWork
    dsimp only
    split
    · rfl
    · rfl

theorem Record.printed_cut (shows : String → Bool) (record : Record) (level : LogLevel) :
    (record.cut level).printed shows = (record.printed shows).cut level := by
  unfold Record.printed Record.cut
  dsimp only
  split
  · rfl
  · rfl

/-- Of two runs that find the same, known levels of the log apart, the one at the higher level
leaves what the other one leaves, with the log from that level on. -/
theorem carryOut_sameButLevel (words : List String) (replies : List Reply) {one two : Surroundings}
    (h : one.SameButLevel two) (hlevel : (levelIn words one).rank ≤ (levelIn words two).rank)
    (hnotes : levelIn words one = levelIn words two ∨
      Transcript.Holds (hostIn words one).Notes { replies }) :
    carryOut words two replies = (carryOut words one replies).cut (levelIn words two) := by
  unfold hostIn at hnotes
  unfold levelIn at hlevel hnotes ⊢
  unfold carryOut
  generalize parse words = parsed at hlevel hnotes ⊢
  cases parsed with
  | error stop => rfl
  | ok found =>
    obtain ⟨command, arguments⟩ := found
    have hconfigured := configure_sameButLevel h arguments
    dsimp only at hlevel hnotes ⊢
    generalize configure arguments one = first, configure arguments two = second
      at hconfigured hlevel hnotes ⊢
    cases hconfigured with
    | failed fault =>
      -- the log is empty, and the fault does not tell the level
      dsimp only
      split
      · rfl
      · rfl
    | @made configured configured' hsame =>
      obtain ⟨config, environment⟩ := configured
      obtain ⟨config', environment'⟩ := configured'
      obtain ⟨hconfig, henvironment⟩ := hsame
      dsimp only at hlevel hnotes ⊢
      rw [work_sameButLevel hconfig henvironment, ← h.accounts]
      have hstart : startOf config' two replies =
          ⟨{ replies }, [], one.host.withLevel (levelOf config')⟩ := by
        rw [h.host]
        rfl
      have hhost : startOf config one replies =
          ⟨{ replies }, [], one.host.withLevel (levelOf config)⟩ := rfl
      rw [hstart, hhost]
      set host := one.host.withLevel (levelOf config)
      have hholds : Transcript.Holds host.Notes { replies } ∨ levelOf config' = .debug := by
        rcases hnotes with heq | hnotes
        · by_cases hdebug : levelOf config' = .debug
          · exact .inr hdebug
          · refine .inl fun _ _ _ document _ _ ↦ Host.notes_iff.mpr fun hlow ↦ ?_
            exact absurd (heq.symm.trans hlow) hdebug
        · exact .inl hnotes
      rcases hholds with hholds | hdebug
      · have hrank : host.level.rank ≤ (levelOf config').rank := hlevel
        have hwork := inStep_work (Session.akin_cutTo hrank) host.keepsRenewal_notes command
          arguments config environment one.accounts
        obtain ⟨hrun, -⟩ := hwork.runOn_cut hholds []
        have hrun : (work command arguments config environment one.accounts).run.run
            ⟨{ replies }, [], one.host.withLevel (levelOf config')⟩ = _ := hrun
        rw [hrun]
        exact Record.ofWork_cut _ _ _ _
      · -- both runs are at the lowest level, which leaves nothing out
        have hlow : levelOf config = .debug := LogLevel.eq_debug_of_rank (hdebug ▸ hlevel)
        have hsame : host = one.host.withLevel .debug := congrArg one.host.withLevel hlow
        rw [hdebug, hsame]
        unfold Record.cut
        rw [Log.atLeast_debug]

theorem run_sameButLevel (words : List String) (replies : List Reply) {one two : Surroundings}
    (h : one.SameButLevel two) (hlevel : (levelIn words one).rank ≤ (levelIn words two).rank)
    (hnotes : levelIn words one = levelIn words two ∨
      Transcript.Holds (hostIn words one).Notes { replies }) :
    run words two replies = (run words one replies).cut (levelIn words two) := by
  unfold run
  rw [carryOut_sameButLevel words replies h hlevel hnotes, Record.printed_cut, h.shows]

/-- The log level shows in the log, and in nothing else, as long as the host can write the documents
that it has to write for its log.  That holds of every session on the client in memory and on the
one behind the command; documents are written at the lowest level only, and those can be that have
short integers and are not nested too deeply.  It holds of two runs of a command line that find the
same, known levels of the log apart; and two runs do that when they differ in a known level only and
the environment file copies it into no other variable. -/
theorem level_shows_in_log_only :
    ShowsInLogOnly Client.memory Memory.Holds ∧
    (∀ access, ShowsInLogOnly (Client.kubectl access) Transcript.Holds) ∧
    (∀ (host : Host) (document : Json), host.Notes document ↔ (host.level = .debug →
      document.Passes 1 0 (Number.isShort · = true) (host.room - Host.noteCalls))) ∧
    ∀ words replies,
      (∀ one two : Surroundings, one.SameButLevel two →
        (levelIn words one).rank ≤ (levelIn words two).rank →
        (levelIn words one = levelIn words two ∨
          Transcript.Holds (hostIn words one).Notes { replies }) →
          run words two replies = (run words one replies).cut (levelIn words two)) ∧
      ∀ (surroundings : Surroundings) (level other : String), ¬ surroundings.CopiesLevel →
        IsLevel level → IsLevel other →
          (surroundings.atLevel level).SameButLevel (surroundings.atLevel other) :=
  ⟨Client.steady_memory.showsInLogOnly, fun access ↦ (Client.steady_kubectl access).showsInLogOnly,
    fun _ _ ↦ Host.notes_iff, fun words replies ↦ ⟨fun _ _ ↦ run_sameButLevel words replies,
      fun _ _ _ ↦ Surroundings.sameButLevel_atLevel⟩⟩

/-- A check without kubectl leaves the same at the levels debug and error, where the level is the
only variable. -/
theorem level_shows_in_log_only_of_check :
    let words := ["check", "-k", "1.20"]
    let replies := [.finished 0 (.text "v1.20") "", .missing]
    let surroundings : Surroundings := { environment := [] }
    let record level := run words (surroundings.atLevel level) replies
    (record "debug").items = (record "error").items ∧
      (record "debug").transcript = (record "error").transcript ∧
      (record "debug").ending = (record "error").ending ∧
      (record "error").log = (record "debug").log.atLeast .error ∧
      (record "debug").log ≠ (record "error").log := by
  intro words replies surroundings record
  obtain ⟨-, -, -, hruns⟩ := level_shows_in_log_only
  obtain ⟨hsame, hlevels⟩ := hruns words replies
  have hcopies : ¬ surroundings.CopiesLevel := by
    rintro ⟨text, ⟨⟩, -⟩
  have hdebug : IsLevel "debug" := by
    unfold IsLevel
    decide +kernel
  have herror : IsLevel "error" := by
    unfold IsLevel
    decide +kernel
  have hlowest : levelIn words (surroundings.atLevel "debug") = .debug := by decide +kernel
  have hhigh : levelIn words (surroundings.atLevel "error") = .error := by decide +kernel
  have hnotes : Transcript.Holds (hostIn words (surroundings.atLevel "debug")).Notes { replies } := by
    -- the one reply that prints something prints no document
    intro code output errors document hmem hparse
    obtain ⟨-, hprinted, -⟩ : code = 0 ∧ output = "v1.20" ∧ errors = "" := by
      simpa [replies] using hmem
    have hnone : (Json.parse "v1.20").isOk = false := by decide +kernel
    rw [← hprinted, hparse] at hnone
    cases hnone
  have hcut : record "error" = (record "debug").cut .error := by
    have hrun := hsame _ _ (hlevels surroundings "debug" "error" hcopies hdebug herror)
      (by rw [hlowest, hhigh]; decide) (.inr hnotes)
    rw [hhigh] at hrun
    exact hrun
  have hdiffer : (record "debug").log ≠ (record "error").log := by decide +kernel
  clear_value record
  rw [hcut] at hdiffer ⊢
  exact ⟨rfl, rfl, rfl, rfl, hdiffer⟩

/-- An environment file that refers to the log level copies it.  At two levels kubectl is then told
two contexts.  And an integer of too many digits cannot be written, so an addon that is to write a
document with it to the log fails at the lowest level, where documents are written, and only
there. -/
theorem level_shows_elsewhere :
    (let words := ["check", "-k", "1.27"]
      let surroundings : Surroundings :=
        { environment := [], envFile := some "EKSADDONS_CONTEXT=$\x7bLOG_LEVEL\x7d\n" }
      let calls level := (run words (surroundings.atLevel level) []).transcript.calls
      IsLevel "warning" ∧ IsLevel "error" ∧ calls "warning" ≠ calls "error") ∧
    let steps : List (Step Memory) :=
      [.noteDocument "base" "state" (.obj [("count", .int (10 ^ 4300))])]
    let succeeds level := (traces Client.memory (Host.usual.withLevel level) steps {}).map
      fun trace ↦ trace.answer.isOk
    succeeds .info = [true] ∧ succeeds .debug = [false] := by
  unfold IsLevel
  decide +kernel

end Cli

end AddonUpkeep
