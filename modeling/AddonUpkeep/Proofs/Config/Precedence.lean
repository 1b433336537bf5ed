import AddonUpkeep.Proofs.Config.Effective
import AddonUpkeep.Proofs.Number.Integers

/-!
# Which source goes first

A configuration is made of what the caller gives, the environment and the environment file.  For the
cluster and the file of addon settings the caller goes first, for the log level and the timeout the
variables do.  The file of addon settings is read when it is named and no settings are given.
-/

namespace AddonUpkeep

open AddonUpkeep.Number AddonUpkeep.Text

namespace Surroundings

variable {surroundings : Surroundings}

theorem exists_problem_of_illegal (h : surroundings.HasIllegalVariable) :
    ∃ problem, surroundings.environment.withFile surroundings.envFile = .error (.value problem) := by
  obtain ⟨fault, hfault⟩ := withFile_eq_error_iff.mpr h
  unfold Environment.withFile at hfault ⊢
  cases hfile : surroundings.envFile with
  | none =>
    rw [hfile] at hfault
    cases hfault
  | some text =>
    rw [hfile] at hfault
    obtain ⟨problem, rfl⟩ := Environment.value_of_complete hfault
    exact ⟨problem, hfault⟩

theorem exists_completed (h : ¬ surroundings.HasIllegalVariable) :
    ∃ environment, surroundings.environment.withFile surroundings.envFile = .ok environment := by
  cases hfile : surroundings.environment.withFile surroundings.envFile with
  | ok environment => exact ⟨environment, rfl⟩
  | error fault => exact absurd (withFile_eq_error_iff.mp ⟨fault, hfile⟩) h

end Surroundings

namespace Config

variable {given config : Config} {surroundings : Surroundings} {environment : Environment}
  {text : String}

/-- What the caller gives, unless it is empty, and the value of the variable otherwise. -/
def callerFirst (surroundings : Surroundings) (argument : Option String) (name : String) :
    Option String :=
  (given? argument).or (surroundings.value? name)

/-- The settings are read from the file of the path: the path is the one that counts, it is not
empty, and no settings are given. -/
def ReadsSettings (given : Config) (surroundings : Surroundings) (path : String) : Prop :=
  callerFirst surroundings given.addonsFile addonsFileVariable = some path ∧ path ≠ "" ∧
    given.addonSettings = []

/-- The configuration has the values that go first. -/
structure Precedence (given : Config) (surroundings : Surroundings) (config : Config) : Prop where
  kubeconfig_eq : config.kubeconfig = callerFirst surroundings given.kubeconfig kubeconfigVariable
  context_eq : config.context = callerFirst surroundings given.context contextVariable
  addonsFile_eq : config.addonsFile = callerFirst surroundings given.addonsFile addonsFileVariable
  logLevel_eq : config.logLevel =
    lower ((surroundings.value? logLevelVariable).getD given.logLevel)
  timeout_kept : surroundings.value? timeoutVariable = none →
    config.kubectlTimeout = given.kubectlTimeout
  timeout_denoted : ∀ text, surroundings.value? timeoutVariable = some text →
    Denotes text.toList config.kubectlTimeout
  settings_read : ∀ path, ReadsSettings given surroundings path →
    AddonFile.load surroundings.files (.ofString path) = .ok config.addonSettings
  settings_kept : (¬ ∃ path, ReadsSettings given surroundings path) →
    config.addonSettings = given.addonSettings

theorem validate_eq_ok_iff :
    config.validate = .ok () ↔ config.logLevel ∈ logLevelNames ∧ 0 < config.kubectlTimeout := by
  unfold validate
  rw [← List.contains_iff_mem]
  cases logLevelNames.contains config.logLevel with
  | false => simp
  | true =>
    by_cases hpositive : config.kubectlTimeout ≤ 0
    · simp [hpositive]
    · simp [hpositive, not_le.mp hpositive]

section Timeout

variable {timeout : Int}

theorem denotes_of_timeoutOf {default : Int} (h : timeoutOf default (some text) = .ok timeout) :
    Denotes text.toList timeout := by
  unfold timeoutOf at h
  dsimp only at h
  split at h
  · next hread => exact denotes_of_readInteger (hread.trans (congrArg Except.ok (Except.ok.inj h)))
  · cases h

theorem timeoutOf_of_readable (h : Readable text.toList) (default : Int) :
    ∃ timeout, timeoutOf default (some text) = .ok timeout := by
  obtain ⟨number, hread⟩ := readable_iff.mp h
  unfold timeoutOf
  dsimp only
  rw [hread]
  exact ⟨number, rfl⟩

theorem timeoutOf_of_not_readable (h : ¬ Readable text.toList) (default : Int) :
    timeoutOf default (some text) = .error (.config (.timeoutNoInteger text)) := by
  unfold timeoutOf
  dsimp only
  split
  · next number hread => exact absurd (readable_iff.mpr ⟨number, hread⟩) h
  · rfl

end Timeout

section Settings

theorem settingsOf_of_reads {path : String} (h : ReadsSettings given surroundings path) :
    settingsOf surroundings.files (callerFirst surroundings given.addonsFile addonsFileVariable)
      given.addonSettings = AddonFile.load surroundings.files (.ofString path) := by
  obtain ⟨hpath, hne, hgiven⟩ := h
  have hsome : given? (some path) = some path := by simp [given?, Option.filter, hne]
  unfold settingsOf
  rw [hpath, hsome, hgiven]
  rfl

theorem settingsOf_of_not_reads (h : ¬ ∃ path, ReadsSettings given surroundings path) :
    settingsOf surroundings.files (callerFirst surroundings given.addonsFile addonsFileVariable)
      given.addonSettings = .ok given.addonSettings := by
  unfold settingsOf
  split
  · next path hpath =>
    split
    · next hempty =>
      obtain ⟨hsome, hne⟩ := Option.filter_eq_some_iff.mp hpath
      exact absurd ⟨path, hsome, by simpa using hne, List.isEmpty_iff.mp hempty⟩ h
    · rfl
  · rfl

end Settings

section Load

/-- The configuration of the values that go first, given the timeout and the settings. -/
def merged (given : Config) (surroundings : Surroundings) (timeout : Int)
    (settings : AddonSettings) : Config where
  kubeconfig := callerFirst surroundings given.kubeconfig kubeconfigVariable
  context := callerFirst surroundings given.context contextVariable
  kubectlTimeout := timeout
  addonsFile := callerFirst surroundings given.addonsFile addonsFileVariable
  addonSettings := settings
  logLevel := lower ((surroundings.value? logLevelVariable).getD given.logLevel)

/-- Once the environment is complete, the timeout is read and the settings behind it. -/
theorem load_of_completed
    (h : surroundings.environment.withFile surroundings.envFile = .ok environment) :
    given.load surroundings = do
      let timeout ← timeoutOf given.kubectlTimeout (surroundings.value? timeoutVariable)
      let settings ← settingsOf surroundings.files
        (callerFirst surroundings given.addonsFile addonsFileVariable) given.addonSettings
      return (merged given surroundings timeout settings, environment) := by
  have hvalue := Surroundings.get?_withFile h
  unfold load inEnvironment
  rw [h, ok_bind]
  simp only [hvalue, bind_assoc, pure_bind]
  rfl

theorem load_of_illegal (h : surroundings.HasIllegalVariable) :
    ∃ problem, given.load surroundings = .error (.value problem) := by
  obtain ⟨problem, hfile⟩ := Surroundings.exists_problem_of_illegal h
  unfold load
  rw [hfile]
  exact ⟨problem, rfl⟩

/-- A timeout that cannot be read is told before any file of settings is looked at. -/
theorem load_of_not_readable (h : ¬ surroundings.HasIllegalVariable)
    (htext : surroundings.value? timeoutVariable = some text)
    (hreadable : ¬ Readable text.toList) :
    given.load surroundings = .error (.config (.timeoutNoInteger text)) := by
  obtain ⟨environment, hfile⟩ := Surroundings.exists_completed h
  rw [load_of_completed hfile, htext, timeoutOf_of_not_readable hreadable, error_bind]

theorem precedence_of_load (h : given.load surroundings = .ok (config, environment)) :
    Precedence given surroundings config := by
  obtain ⟨completed, hfile, -⟩ := bind_eq_ok_iff.mp h
  rw [load_of_completed hfile] at h
  obtain ⟨timeout, htimeout, h⟩ := bind_eq_ok_iff.mp h
  obtain ⟨settings, hsettings, hpair⟩ := bind_eq_ok_iff.mp h
  obtain ⟨rfl, rfl⟩ := Prod.mk.inj (Except.ok.inj hpair)
  exact {
    kubeconfig_eq := rfl
    context_eq := rfl
    addonsFile_eq := rfl
    logLevel_eq := rfl
    timeout_kept := fun hunset ↦ by
      rw [hunset] at htimeout
      exact (Except.ok.inj htimeout).symm
    timeout_denoted := fun text htext ↦ by
      rw [htext] at htimeout
      exact denotes_of_timeoutOf htimeout
    settings_read := fun path hreads ↦ settingsOf_of_reads hreads ▸ hsettings
    settings_kept := fun hreads ↦ by
      rw [settingsOf_of_not_reads hreads] at hsettings
      exact (Except.ok.inj hsettings).symm }

/-- What has to hold for a configuration to be made. -/
structure Loadable (given : Config) (surroundings : Surroundings) : Prop where
  legal : ¬ surroundings.HasIllegalVariable
  readable : ∀ text, surroundings.value? timeoutVariable = some text → Readable text.toList
  settings : ∀ path, ReadsSettings given surroundings path →
    ∃ settings, AddonFile.load surroundings.files (.ofString path) = .ok settings

theorem loadable_iff :
    Loadable given surroundings ↔
      ∃ config environment, given.load surroundings = .ok (config, environment) := by
  constructor
  · intro h
    obtain ⟨environment, hfile⟩ := Surroundings.exists_completed h.legal
    have htimeout : ∃ timeout, timeoutOf given.kubectlTimeout
        (surroundings.value? timeoutVariable) = .ok timeout := by
      cases htext : surroundings.value? timeoutVariable with
      | none => exact ⟨_, rfl⟩
      | some text => exact timeoutOf_of_readable (h.readable text htext) _
    have hsettings : ∃ settings, settingsOf surroundings.files
        (callerFirst surroundings given.addonsFile addonsFileVariable) given.addonSettings =
          .ok settings := by
      by_cases hreads : ∃ path, ReadsSettings given surroundings path
      · obtain ⟨path, hpath⟩ := hreads
        exact settingsOf_of_reads hpath ▸ h.settings path hpath
      · exact ⟨_, settingsOf_of_not_reads hreads⟩
    obtain ⟨timeout, htimeout⟩ := htimeout
    obtain ⟨settings, hsettings⟩ := hsettings
    refine ⟨merged given surroundings timeout settings, environment, ?_⟩
    rw [load_of_completed hfile, htimeout, ok_bind, hsettings, ok_bind]
    rfl
  · rintro ⟨config, environment, hload⟩
    have hlegal : ¬ surroundings.HasIllegalVariable := by
      intro hillegal
      have hrefused : ∃ problem, given.load surroundings = .error (.value problem) :=
        load_of_illegal hillegal
      obtain ⟨problem, hproblem⟩ := hrefused
      cases hproblem.symm.trans hload
    refine ⟨hlegal, fun text htext ↦ ?_, fun path hreads ↦ ?_⟩
    · by_contra hreadable
      cases (load_of_not_readable hlegal htext hreadable).symm.trans hload
    · exact ⟨_, (precedence_of_load hload).settings_read path hreads⟩

/-- Files are not looked at when no settings are read. -/
theorem load_of_not_reads (h : ¬ ∃ path, ReadsSettings given surroundings path)
    (files : FileTree) :
    given.load { surroundings with files } = given.load surroundings := by
  cases hfile : surroundings.environment.withFile surroundings.envFile with
  | error fault =>
    unfold load
    rw [hfile]
    rfl
  | ok environment =>
    set other : Surroundings := { surroundings with files }
    have hsame : other.environment.withFile other.envFile = .ok environment := hfile
    have hother : ¬ ∃ path, ReadsSettings given other path := h
    rw [load_of_completed hfile, load_of_completed hsame, settingsOf_of_not_reads h,
      settingsOf_of_not_reads hother]
    rfl

end Load

/-- A configuration that is made has the values that go first, and is valid when its level is one of
five and its timeout positive.  A timeout that denotes no integer is told, unless the environment
file has a variable that cannot be set, which ends everything before.  Files are looked at only when
settings are read from one. -/
theorem load_by_source (given : Config) (surroundings : Surroundings) :
    (∀ config environment, given.load surroundings = .ok (config, environment) →
      Precedence given surroundings config ∧
      (config.validate = .ok () ↔
        config.logLevel ∈ ["debug", "info", "warning", "error", "critical"] ∧
          0 < config.kubectlTimeout)) ∧
    (∀ text, surroundings.value? timeoutVariable = some text →
      (¬ ∃ number, Denotes text.toList number) → ¬ surroundings.HasIllegalVariable →
      given.load surroundings = .error (.config (.timeoutNoInteger text))) ∧
    (surroundings.HasIllegalVariable →
      ∃ problem, given.load surroundings = .error (.value problem)) ∧
    (Loadable given surroundings ↔
      ∃ config environment, given.load surroundings = .ok (config, environment)) ∧
    ((¬ ∃ path, ReadsSettings given surroundings path) →
      ∀ files, given.load { surroundings with files } = given.load surroundings) := by
  refine ⟨fun config environment hload ↦ ?_, fun text htext hdenotes hlegal ↦ ?_,
    load_of_illegal, loadable_iff, load_of_not_reads⟩
  · exact ⟨precedence_of_load hload, validate_eq_ok_iff⟩
  · have hreadable : ¬ Readable text.toList := fun h ↦ hdenotes h.exists_denotes
    exact load_of_not_readable hlegal htext hreadable

/-- A level that is set and empty counts, a context that is given and empty does not.  The file
refers to the environment. -/
theorem load_by_source_of_empty_values :
    let given : Config := { context := some "", logLevel := "Warning" }
    let text := "LOG_LEVEL=debug\nEKSADDONS_KUBECTL_TIMEOUT=' +4_5'\n" ++
      "KUBECONFIG=$\x7bEKSADDONS_CONTEXT\x7d.conf\n"
    let surroundings : Surroundings := {
      environment := [("LOG_LEVEL", ""), ("EKSADDONS_CONTEXT", "home")]
      envFile := some text }
    ∃ config environment, given.load surroundings = .ok (config, environment) ∧
      Precedence given surroundings config ∧ config.kubeconfig = some "home.conf" ∧
      config.context = some "home" ∧ config.logLevel = "" ∧ Denotes " +4_5".toList 45 ∧
      config.validate ≠ .ok () := by
  intro given text surroundings
  have hmade : (given.load surroundings).toOption.map (fun loaded ↦
      (loaded.1.kubeconfig, loaded.1.context, loaded.1.logLevel, loaded.1.kubectlTimeout)) =
        some (some "home.conf", some "home", "", 45) := by decide +kernel
  have htext : surroundings.value? timeoutVariable = some " +4_5" := by decide +kernel
  cases hload : given.load surroundings with
  | error fault =>
    rw [hload] at hmade
    cases hmade
  | ok loaded =>
    obtain ⟨config, environment⟩ := loaded
    rw [hload] at hmade
    simp only [Except.toOption, Option.map_some, Option.some.injEq, Prod.mk.injEq] at hmade
    obtain ⟨hkubeconfig, hcontext, hlevel, htimeout⟩ := hmade
    obtain ⟨hprecedence, hvalid⟩ := (load_by_source given surroundings).1 config environment hload
    refine ⟨config, environment, rfl, hprecedence, hkubeconfig, hcontext, hlevel,
      htimeout ▸ hprecedence.timeout_denoted _ htext, fun hok ↦ ?_⟩
    have hmem := (hvalid.mp hok).1
    rw [hlevel] at hmem
    revert hmem
    decide

/-- A variable that cannot be set hides that the timeout denotes no integer. -/
theorem load_by_source_of_illegal_variable :
    let surroundings : Surroundings := {
      environment := []
      envFile := some "EKSADDONS_KUBECTL_TIMEOUT=abc\n'A=B'=1\n" }
    surroundings.value? timeoutVariable = some "abc" ∧ (¬ ∃ number, Denotes "abc".toList number) ∧
      ∃ fault, Config.load {} surroundings = .error fault ∧ fault.kind ≠ .configuration := by
  intro surroundings
  have hkind : (match Config.load {} surroundings with
    | .error fault => some fault.kind
    | .ok _ => none) = some .badValue := by decide +kernel
  refine ⟨by decide +kernel, ?_, ?_⟩
  · rintro ⟨number, sign, digits, hwritten, -⟩
    have hread := readInteger_of_written hwritten
    have hmalformed : readInteger 10 "abc".toList = .error .malformed := by decide +kernel
    rw [hmalformed] at hread
    split at hread
    · cases hread
    · cases hread
  · split at hkind
    · next fault hload => exact ⟨fault, hload, by rw [Option.some.inj hkind]; decide⟩
    · cases hkind

end Config

end AddonUpkeep
