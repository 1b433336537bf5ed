import AddonUpkeep.Proofs.Config.Faults

/-!
# The values that count

A variable keeps the value that the environment has of it, and has the one of the environment file
otherwise.  What the arguments say about the cluster and the file of addon settings goes before
both, unless it is empty.  The timeout is told by its variable alone.
-/

namespace AddonUpkeep

namespace Environment

variable {environment completed : Environment} {table : Table String (Option String)}

theorem get?_of_define {held value : String} (h : define environment held value = .ok completed)
    (name : String) :
    completed.get? name = if held = name then some value else environment.get? name := by
  have hlegal : ¬ Illegal held value := fun hillegal ↦ by
    obtain ⟨problem, hdefine⟩ := define_of_illegal environment hillegal
    cases hdefine.symm.trans h
  obtain rfl := Except.ok.inj ((define_of_legal hlegal).symm.trans h)
  by_cases hheld : held = name
  · rw [if_pos hheld, ← hheld, Table.get?_put_self]
  · rw [if_neg hheld, Table.get?_put_of_ne _ _ (Ne.symm hheld)]

/-- One entry of the table gives its variable a value when the environment has none. -/
theorem complete_cons {held : String} {value? : Option String}
    {rest : Table String (Option String)}
    (h : complete environment ((held, value?) :: rest) = .ok completed) :
    ∃ next, complete next rest = .ok completed ∧ ∀ name,
      next.get? name = (environment.get? name).or (if held = name then value? else none) := by
  unfold complete at h
  cases hpresent : environment.get? held with
  | some kept =>
    rw [hpresent] at h
    refine ⟨environment, h, fun name ↦ ?_⟩
    by_cases hheld : held = name
    · rw [← hheld, hpresent]
      rfl
    · rw [if_neg hheld, Option.or_none]
  | none =>
    rw [hpresent] at h
    cases value? with
    | none => exact ⟨environment, h, fun name ↦ by rw [ite_self, Option.or_none]⟩
    | some value =>
      obtain ⟨defined, hdefine, hcomplete⟩ := bind_eq_ok_iff.mp h
      refine ⟨defined, hcomplete, fun name ↦ ?_⟩
      rw [get?_of_define hdefine]
      by_cases hheld : held = name
      · rw [if_pos hheld, if_pos hheld, ← hheld, hpresent]
        rfl
      · rw [if_neg hheld, if_neg hheld, Option.or_none]

/-- A completed environment has what it had, and otherwise what the table has. -/
theorem get?_complete (hnodup : table.keys.Nodup) (h : complete environment table = .ok completed)
    (name : String) :
    completed.get? name = (environment.get? name).or (table.get? name).join := by
  induction table generalizing environment with
  | nil =>
    obtain rfl := Except.ok.inj h
    exact Option.or_none.symm
  | cons entry rest ih =>
    obtain ⟨held, value?⟩ := entry
    obtain ⟨hfirst, hrest⟩ := List.nodup_cons.mp hnodup
    obtain ⟨next, hcomplete, hnext⟩ := complete_cons h
    rw [ih hrest hcomplete, hnext, Table.get?_cons, Option.or_assoc]
    by_cases hheld : held = name
    · have hlater : Table.get? rest name = none := Table.get?_of_not_mem (hheld ▸ hfirst)
      rw [if_pos hheld, if_pos (beq_iff_eq.mpr hheld), hlater]
      exact congrArg _ Option.or_none
    · rw [if_neg hheld, if_neg (mt beq_iff_eq.mp hheld)]
      rfl

end Environment

namespace Surroundings

/-- The value of a variable: the one of the environment, or else the one of the environment file. -/
def value? (surroundings : Surroundings) (name : String) : Option String :=
  (surroundings.environment.get? name).or
    (surroundings.envFile.bind fun text ↦
      ((EnvFile.read surroundings.environment text).get? name).join)

theorem get?_withFile {surroundings : Surroundings} {environment : Environment}
    (h : surroundings.environment.withFile surroundings.envFile = .ok environment)
    (name : String) : environment.get? name = surroundings.value? name := by
  unfold Environment.withFile at h
  unfold value?
  cases hfile : surroundings.envFile with
  | none =>
    rw [hfile] at h
    obtain rfl := Except.ok.inj h
    exact Option.or_none.symm
  | some text =>
    rw [hfile] at h
    exact Environment.get?_complete (EnvFile.nodup_keys_read _ text) h name

end Surroundings

namespace Cli

open AddonUpkeep.Config

variable {arguments : Arguments} {surroundings : Surroundings} {config : Config}
  {environment : Environment}

/-- The value of an argument, or else of a variable; empty ones do not count. -/
def chosen (argument : Option Value) (surroundings : Surroundings) (name : String) :
    Option String :=
  given? ((given? (argument.bind Value.text?)).or (surroundings.value? name))

/-- The path of the kubeconfig file that counts. -/
def chosenKubeconfig (arguments : Arguments) (surroundings : Surroundings) :
    Except Fault (Option Path) :=
  (chosen arguments.kubeconfig surroundings kubeconfigVariable).mapM fun text ↦
    (Path.ofString text).expandHome (surroundings.value? homeVariable) surroundings.accounts

/-- A configuration has the values that count. -/
structure Effective (arguments : Arguments) (surroundings : Surroundings) (config : Config) :
    Prop where
  kubeconfig_eq : given? config.kubeconfig =
    chosen arguments.kubeconfig surroundings kubeconfigVariable
  context_eq : given? config.context = chosen arguments.context surroundings contextVariable
  timeout_eq : timeoutOf 30 (surroundings.value? timeoutVariable) = .ok config.kubectlTimeout
  settings_eq : (match chosen arguments.addonsFile surroundings addonsFileVariable with
    | some path => AddonFile.load surroundings.files (.ofString path)
    | none => .ok []) = .ok config.addonSettings

theorem timeout_pos_of_validate (h : config.validate = .ok ()) : 0 < config.kubectlTimeout := by
  unfold validate at h
  split at h
  · cases h
  · split at h
    · cases h
    · next hpositive => exact not_le.mp hpositive

theorem Effective.adjust (h : Effective arguments surroundings config) :
    Effective arguments surroundings (adjust arguments config) := by
  unfold Cli.adjust
  split
  · exact ⟨h.kubeconfig_eq, h.context_eq, h.timeout_eq, h.settings_eq⟩
  · exact h

/-- What is loaded has the values that count. -/
theorem effective_of_load
    (h : arguments.config.load surroundings = .ok (config, environment)) :
    Effective arguments surroundings config ∧
      ∀ name, environment.get? name = surroundings.value? name := by
  obtain ⟨completed, hcompleted, h⟩ := bind_eq_ok_iff.mp h
  obtain ⟨loaded, hloaded, hpair⟩ := bind_eq_ok_iff.mp h
  obtain ⟨rfl, rfl⟩ := Prod.mk.inj (Except.ok.inj hpair)
  obtain ⟨timeout, htimeout, hloaded⟩ := bind_eq_ok_iff.mp hloaded
  obtain ⟨settings, hsettings, hloaded⟩ := bind_eq_ok_iff.mp hloaded
  obtain rfl := Except.ok.inj hloaded
  have hvalue := Surroundings.get?_withFile hcompleted
  rw [hvalue] at htimeout
  rw [settingsOf_config, addonsFileOf, hvalue] at hsettings
  refine ⟨⟨?_, ?_, htimeout, hsettings⟩, hvalue⟩
  · rw [hvalue kubeconfigVariable]
    rfl
  · rw [hvalue contextVariable]
    rfl

theorem Effective.kubeconfigPath_eq (h : Effective arguments surroundings config)
    (hvalue : ∀ name, environment.get? name = surroundings.value? name) :
    config.kubeconfigPath environment surroundings.accounts =
      chosenKubeconfig arguments surroundings := by
  unfold kubeconfigPath chosenKubeconfig
  rw [h.kubeconfig_eq, hvalue]

/-- A configuration is made of the values that count, and its timeout is positive. -/
theorem effective_of_configure
    (h : configure arguments surroundings = .ok (config, environment)) :
    Effective arguments surroundings config ∧ 0 < config.kubectlTimeout ∧
      config.kubeconfigPath environment surroundings.accounts =
        chosenKubeconfig arguments surroundings := by
  obtain ⟨⟨loaded, completed⟩, hloaded, h⟩ := bind_eq_ok_iff.mp h
  obtain ⟨_, hvalid, hpair⟩ := bind_eq_ok_iff.mp h
  obtain ⟨rfl, rfl⟩ := Prod.mk.inj (Except.ok.inj hpair)
  obtain ⟨heffective, hvalue⟩ := effective_of_load hloaded
  exact ⟨heffective.adjust, timeout_pos_of_validate hvalid,
    heffective.adjust.kubeconfigPath_eq hvalue⟩

end Cli

end AddonUpkeep
