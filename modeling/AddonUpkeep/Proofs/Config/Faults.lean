import AddonUpkeep.Cli.Run
import AddonUpkeep.Proofs.Config.AddonSettings
import AddonUpkeep.Proofs.Reading

/-!
# Faults of the configuration that nobody foresaw

A configuration is refused with a fault that is told to the user, unless the fault is none of the
library.  That happens in two places: a variable of the environment file cannot be set, or the file
of addon settings is there and cannot be read.
-/

namespace AddonUpkeep

open AddonUpkeep.Text

namespace Environment

/-- A variable that no environment can hold. -/
def Illegal (name value : String) : Prop :=
  '\x00' ∈ name.toList ∨ '\x00' ∈ value.toList ∨ '=' ∈ name.toList

variable {environment : Environment} {name value : String}

theorem define_of_illegal (environment : Environment) (h : Illegal name value) :
    ∃ problem, define environment name value = .error (.value problem) := by
  unfold define
  split
  · exact ⟨.nullByte, rfl⟩
  · next hbytes =>
    split
    · exact ⟨.environmentName, rfl⟩
    · next hname =>
      simp only [Bool.or_eq_true, List.contains_iff_mem, not_or] at hbytes hname
      rcases h with hnull | hnull | hequals
      · exact absurd hnull hbytes.1
      · exact absurd hnull hbytes.2
      · exact absurd hequals hname

theorem define_of_legal (h : ¬ Illegal name value) :
    define environment name value = .ok (environment.put name value) := by
  simp only [Illegal, not_or] at h
  simp [define, h]

/-- A table has a variable that the environment does not have and cannot hold. -/
def Refuses (environment : Environment) (table : Table String (Option String)) : Prop :=
  ∃ name value, (name, some value) ∈ table ∧ environment.get? name = none ∧ Illegal name value

theorem refuses_cons_iff {value? : Option String} {rest : Table String (Option String)} :
    Refuses environment ((name, value?) :: rest) ↔
      (∃ value, value? = some value ∧ environment.get? name = none ∧ Illegal name value) ∨
        Refuses environment rest := by
  constructor
  · rintro ⟨other, value, hmem, hget, hillegal⟩
    rcases List.mem_cons.mp hmem with heq | hlater
    · obtain ⟨rfl, rfl⟩ := Prod.mk.inj heq
      exact .inl ⟨value, rfl, hget, hillegal⟩
    · exact .inr ⟨other, value, hlater, hget, hillegal⟩
  · rintro (⟨value, rfl, hget, hillegal⟩ | ⟨other, value, hmem, hrest⟩)
    · exact ⟨name, value, List.mem_cons_self, hget, hillegal⟩
    · exact ⟨other, value, List.mem_cons_of_mem _ hmem, hrest⟩

/-- What is set under a name that the table does not have hides none of its variables. -/
theorem refuses_put_iff {rest : Table String (Option String)} (h : name ∉ rest.keys) :
    Refuses (environment.put name value) rest ↔ Refuses environment rest := by
  have hother : ∀ other held, (other, held) ∈ rest →
      (environment.put name value).get? other = environment.get? other := by
    intro other held hmem
    apply Table.get?_put_of_ne
    rintro rfl
    exact h (List.mem_map.mpr ⟨_, hmem, rfl⟩)
  constructor
  · rintro ⟨other, held, hmem, hget, hillegal⟩
    exact ⟨other, held, hmem, hother other _ hmem ▸ hget, hillegal⟩
  · rintro ⟨other, held, hmem, hget, hillegal⟩
    exact ⟨other, held, hmem, (hother other _ hmem).trans hget, hillegal⟩

/-- Completing an environment fails when some variable that it does not have cannot be set. -/
theorem complete_eq_error_iff {table : Table String (Option String)} (hnodup : table.keys.Nodup) :
    (∃ fault, complete environment table = .error fault) ↔ Refuses environment table := by
  induction table generalizing environment with
  | nil => simp [complete, Refuses]
  | cons entry rest ih =>
    obtain ⟨name, value?⟩ := entry
    obtain ⟨hfirst, hrest⟩ := List.nodup_cons.mp hnodup
    rw [refuses_cons_iff]
    unfold complete
    cases hget : environment.get? name with
    | some held =>
      dsimp only
      rw [ih hrest]
      simp
    | none =>
      cases value? with
      | none =>
        dsimp only
        rw [ih hrest]
        simp
      | some value =>
        dsimp only
        by_cases hillegal : Illegal name value
        · obtain ⟨problem, hdefine⟩ := define_of_illegal environment hillegal
          rw [hdefine, error_bind]
          exact iff_of_true ⟨_, rfl⟩ (.inl ⟨value, rfl, rfl, hillegal⟩)
        · rw [define_of_legal hillegal, ok_bind, ih hrest, refuses_put_iff hfirst]
          simp [hillegal]

theorem value_of_complete {table : Table String (Option String)} {fault : Fault}
    (h : complete environment table = .error fault) : ∃ problem, fault = .value problem := by
  induction table generalizing environment with
  | nil => cases h
  | cons entry rest ih =>
    obtain ⟨name, value?⟩ := entry
    unfold complete at h
    split at h
    · next value hget =>
      by_cases hillegal : Illegal name value
      · obtain ⟨problem, hdefine⟩ := define_of_illegal environment hillegal
        rw [hdefine] at h
        exact ⟨problem, (Except.error.inj h).symm⟩
      · rw [define_of_legal hillegal] at h
        exact ih h
    · exact ih h

end Environment

theorem EnvFile.nodup_keys_read (environment : Environment) (text : String) :
    (EnvFile.read environment text).keys.Nodup := by
  unfold EnvFile.read EnvFile.resolve
  generalize EnvFile.bindings _ = bindings
  have hkept : ∀ earlier : Table String (Option String), earlier.keys.Nodup →
      (bindings.foldl (fun earlier binding ↦ earlier.put (String.ofList binding.name)
        (binding.value.map fun value ↦ String.ofList
          ((parts value).flatMap (·.text environment earlier)))) earlier).keys.Nodup := by
    induction bindings with
    | nil => exact fun _ h ↦ h
    | cons binding rest ih => exact fun earlier h ↦ ih _ (Table.nodup_keys_put h _ _)
  exact hkept [] List.nodup_nil

namespace Surroundings

/-- The environment file names a variable that is not set yet and cannot be set. -/
def HasIllegalVariable (surroundings : Surroundings) : Prop :=
  ∃ text name value, surroundings.envFile = some text ∧
    (name, some value) ∈ EnvFile.read surroundings.environment text ∧
    surroundings.environment.get? name = none ∧ Environment.Illegal name value

variable {surroundings : Surroundings}

theorem withFile_eq_error_iff :
    (∃ fault, surroundings.environment.withFile surroundings.envFile = .error fault) ↔
      surroundings.HasIllegalVariable := by
  unfold Environment.withFile HasIllegalVariable
  cases surroundings.envFile with
  | none => simp
  | some text =>
    dsimp only
    rw [Environment.complete_eq_error_iff (EnvFile.nodup_keys_read _ text)]
    simp [Environment.Refuses]

theorem isForeseen_of_withFile {fault : Fault}
    (h : surroundings.environment.withFile surroundings.envFile = .error fault) :
    fault.isForeseen = false := by
  unfold Environment.withFile at h
  split at h
  · cases h
  · obtain ⟨problem, rfl⟩ := Environment.value_of_complete h
    rfl

end Surroundings

theorem isForeseen_config (problem : ConfigProblem) :
    (Fault.config problem).isForeseen = true := by
  cases problem <;> rfl

namespace AddonFile

variable {files : FileTree} {path : Path}

/-- A file of addon settings that is there and cannot be read: it is a directory, its name is too
long, its text has a value that cannot be made, or an entry is refused for a key without a text. -/
inductive Unreadable (files : FileTree) (path : Path) : Prop
  | directory (h : files.find path = .directory)
  | nameTooLong (h : files.find path = .nameTooLong)
  | value {text : String} {fault : Fault} (hfile : files.find path = .file text)
      (hparse : Yaml.parse (unifyLines text.toList) = .error (.value fault))
      (hfault : fault.isForeseen = false)
  | key {text : String} {entries : Settings} {key value : Setting}
      (hfile : files.find path = .file text)
      (hparse : Yaml.parse (unifyLines text.toList) = .ok (.map entries))
      (hfirst : entries.find? isRefused = some (key, value)) (hkey : key.hasText = false)

theorem load_unforeseen_iff :
    (∃ fault, load files path = .error fault ∧ fault.isForeseen = false) ↔
      Unreadable files path := by
  constructor
  · rintro ⟨fault, hload, hfault⟩
    cases hfound : files.find path with
    | directory => exact .directory hfound
    | nameTooLong => exact .nameTooLong hfound
    | nothing =>
      unfold load at hload
      rw [hfound] at hload
      obtain rfl := Except.error.inj hload
      cases hfault
    | file text =>
      cases hparse : Yaml.parse (unifyLines text.toList) with
      | error refusal =>
        unfold load ofText at hload
        simp only [hfound, hparse] at hload
        obtain rfl := Except.error.inj hload
        cases refusal with
        | malformed violation => cases hfault
        | value fault => exact .value hfound hparse hfault
      | ok setting =>
        cases setting with
        | map entries =>
          rw [load_eq hfound hparse] at hload
          split at hload
          · next entry hfirst =>
            obtain rfl := Except.error.inj hload
            refine .key hfound hparse hfirst ?_
            by_contra htext
            rw [entryFault, if_pos (Bool.not_eq_false _ ▸ htext), isForeseen_config] at hfault
            cases hfault
          · cases hload
        | null =>
          unfold load ofText at hload
          simp only [hfound, hparse] at hload
          cases hload
        | _ =>
          unfold load ofText at hload
          simp only [hfound, hparse] at hload
          obtain rfl := Except.error.inj hload
          cases hfault
  · intro h
    cases h with
    | directory hfound => exact ⟨_, by rw [load, hfound], rfl⟩
    | nameTooLong hfound => exact ⟨_, by rw [load, hfound], rfl⟩
    | value hfound hparse hfault =>
      refine ⟨_, ?_, hfault⟩
      simp only [load, ofText, hfound, hparse, refusalFault]
    | key hfound hparse hfirst hkey =>
      refine ⟨.value .longText, ?_, rfl⟩
      rw [load_eq hfound hparse, hfirst]
      simp [entryFault, hkey]

end AddonFile

namespace Cli

/-- The file of addon settings that a run reads: the one of the arguments, or else the one of the
environment. -/
def addonsFileOf (arguments : Arguments) (environment : Environment) : Option String :=
  Config.given? ((Config.given? arguments.config.addonsFile).or
    (environment.get? Config.addonsFileVariable))

/-- The configuration of a run is refused with a fault that nobody foresaw. -/
inductive Unconfigurable (arguments : Arguments) (surroundings : Surroundings) : Prop
  | variable (h : surroundings.HasIllegalVariable)
  | addonsFile {environment : Environment} {timeout : Int} {path : String}
      (henvironment : surroundings.environment.withFile surroundings.envFile = .ok environment)
      (htimeout : Config.timeoutOf 30 (environment.get? Config.timeoutVariable) = .ok timeout)
      (hpath : addonsFileOf arguments environment = some path)
      (hunreadable : AddonFile.Unreadable surroundings.files (.ofString path))

variable {arguments : Arguments} {surroundings : Surroundings}

theorem isForeseen_of_timeoutOf {given : Int} {text : Option String} {fault : Fault}
    (h : Config.timeoutOf given text = .error fault) : fault.isForeseen = true := by
  unfold Config.timeoutOf at h
  split at h
  · cases h
  · split at h
    · cases h
    · obtain rfl := Except.error.inj h
      rfl

theorem isForeseen_of_validate {config : Config} {fault : Fault}
    (h : config.validate = .error fault) : fault.isForeseen = true := by
  unfold Config.validate at h
  split at h
  · obtain rfl := Except.error.inj h
    rfl
  · split at h
    · obtain rfl := Except.error.inj h
      rfl
    · cases h

/-- The settings of addons are those of the file, which is read when there is one. -/
theorem settingsOf_config (files : FileTree) (environment : Environment) :
    Config.settingsOf files ((Config.given? arguments.config.addonsFile).or
        (environment.get? Config.addonsFileVariable)) arguments.config.addonSettings =
      match addonsFileOf arguments environment with
      | some path => AddonFile.load files (.ofString path)
      | none => .ok [] := rfl

section Configure

variable {environment : Environment} {timeout : Int}

/-- Once the settings of addons are read, only the checks of the configuration can fail. -/
theorem isForeseen_of_checked {config : Config} {fault : Fault}
    (h : (config.validate >>= fun _ ↦ Except.ok (config, environment)) = .error fault) :
    fault.isForeseen = true := by
  cases hvalidate : config.validate with
  | ok valid =>
    rw [hvalidate] at h
    cases h
  | error problem =>
    rw [hvalidate] at h
    obtain rfl := Except.error.inj h
    exact isForeseen_of_validate hvalidate

/-- With an environment and a timeout, only the file of addon settings is left. -/
theorem configure_of_timeout
    (henvironment : surroundings.environment.withFile surroundings.envFile = .ok environment)
    (htimeout : Config.timeoutOf 30 (environment.get? Config.timeoutVariable) = .ok timeout) :
    (∃ fault, configure arguments surroundings = .error fault ∧ fault.isForeseen = false) ↔
      ∃ path, addonsFileOf arguments environment = some path ∧
        AddonFile.Unreadable surroundings.files (.ofString path) := by
  change Config.timeoutOf arguments.config.kubectlTimeout _ = _ at htimeout
  unfold configure Config.load Config.inEnvironment
  simp only [henvironment, htimeout, ok_bind, settingsOf_config]
  cases hpath : addonsFileOf arguments environment with
  | none =>
    refine iff_of_false ?_ (by simp)
    rintro ⟨fault, hfault, hunforeseen⟩
    rw [isForeseen_of_checked hfault] at hunforeseen
    cases hunforeseen
  | some path =>
    simp only [Option.some.injEq, exists_eq_left']
    rw [← AddonFile.load_unforeseen_iff]
    cases AddonFile.load surroundings.files (.ofString path) with
    | error fault => simp
    | ok settings =>
      refine iff_of_false ?_ (by simp)
      rintro ⟨fault, hfault, hunforeseen⟩
      rw [isForeseen_of_checked hfault] at hunforeseen
      cases hunforeseen

end Configure

/-- A configuration is refused with a fault that nobody foresaw in these cases and in no other. -/
theorem configure_unforeseen_iff :
    (∃ fault, configure arguments surroundings = .error fault ∧ fault.isForeseen = false) ↔
      Unconfigurable arguments surroundings := by
  cases henvironment : surroundings.environment.withFile surroundings.envFile with
  | error fault =>
    have hfault : configure arguments surroundings = .error fault := by
      unfold configure Config.load
      rw [henvironment]
      rfl
    exact iff_of_true ⟨fault, hfault, Surroundings.isForeseen_of_withFile henvironment⟩
      (.variable (Surroundings.withFile_eq_error_iff.mp ⟨fault, henvironment⟩))
  | ok environment =>
    have hlegal : ¬ surroundings.HasIllegalVariable := by
      rw [← Surroundings.withFile_eq_error_iff, henvironment]
      rintro ⟨fault, ⟨⟩⟩
    cases htimeout : Config.timeoutOf 30 (environment.get? Config.timeoutVariable) with
    | error fault =>
      have hfault : configure arguments surroundings = .error fault := by
        change Config.timeoutOf arguments.config.kubectlTimeout _ = _ at htimeout
        unfold configure Config.load Config.inEnvironment
        rw [henvironment, ok_bind, htimeout]
        rfl
      refine iff_of_false ?_ ?_
      · rintro ⟨fault', hfault', hunforeseen⟩
        cases hfault.symm.trans hfault'
        rw [isForeseen_of_timeoutOf htimeout] at hunforeseen
        cases hunforeseen
      · rintro (hillegal | ⟨henvironment', htimeout', -, -⟩)
        · exact hlegal hillegal
        · cases henvironment.symm.trans henvironment'
          cases htimeout.symm.trans htimeout'
    | ok timeout =>
      rw [configure_of_timeout henvironment htimeout]
      constructor
      · rintro ⟨path, hpath, hunreadable⟩
        exact .addonsFile henvironment htimeout hpath hunreadable
      · rintro (hillegal | ⟨henvironment', -, hpath, hunreadable⟩)
        · exact absurd hillegal hlegal
        · cases henvironment.symm.trans henvironment'
          exact ⟨_, hpath, hunreadable⟩

end Cli

end AddonUpkeep
