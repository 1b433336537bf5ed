import AddonUpkeep.Addon.Catalog
import AddonUpkeep.Config.AddonFile
import AddonUpkeep.Proofs.Table
import Mathlib.Algebra.Group.Int.Defs
import Mathlib.Data.List.Find

/-!
# From the file of addon settings to the addon

Two tables are filled one after the other: one by the names in the file without case and blanks, and
one by the names that they stand for.  In both the first entry of a name gives the place and the
last one the settings, which are never mixed.  The first entry that is refused ends the reading.
-/

namespace AddonUpkeep

open AddonUpkeep.Text

namespace AddonFile

/-- A value that can be the settings of an addon: none, or a mapping. -/
def isSection : Setting → Bool
  | .null | .map _ | .enclosing .map => true
  | _ => false

/-- An entry that ends the reading of a file. -/
def isRefused (entry : Setting × Setting) : Bool := !entry.1.hasText || !isSection entry.2

/-- The fault of an entry that ends the reading, by its key. -/
def entryFault (path : Path) (key : Setting) : Fault :=
  if key.hasText then .config (.settingsNoMapping key.text path.text) else .value .longText

/-- An entry as it is stored. -/
def namedSection (whole : Settings) (entry : Setting × Setting) : String × Option Settings :=
  (nameOf entry.1, settingsOf? whole entry.2)

theorem isSome_settingsOf? (whole : Settings) (value : Setting) :
    (settingsOf? whole value).isSome = isSection value := by
  cases value with
  | enclosing collection => cases collection <;> rfl
  | _ => rfl

/-- Entries are stored one after the other, up to the first that is refused. -/
theorem addEntries_eq (path : Path) (whole : Settings) (settings : AddonSettings)
    (entries : List (Setting × Setting)) :
    addEntries path whole settings entries = match entries.find? isRefused with
      | some entry => .error (entryFault path entry.1)
      | none => .ok (settings.putAll (entries.map (namedSection whole))) := by
  induction entries generalizing settings with
  | nil => rfl
  | cons entry entries ih =>
    obtain ⟨key, value⟩ := entry
    have hsection := isSome_settingsOf? whole value
    unfold addEntries
    rw [List.find?_cons]
    cases htext : key.hasText with
    | false => simp [isRefused, entryFault, htext]
    | true =>
      cases hvalue : settingsOf? whole value with
      | none =>
        have hno : isSection value = false := by rw [← hsection, hvalue]; rfl
        simp [isRefused, entryFault, htext, hno]
      | some found =>
        have hyes : isSection value = true := by rw [← hsection, hvalue]; rfl
        simp only [isRefused, htext, hyes, Bool.not_true, Bool.or_self, Bool.false_eq_true, if_false]
        rw [ih, List.map_cons, namedSection, hvalue]
        rfl

/-- Settings by name as the entries of a file give them.  Every name stands where it came first, and
has the settings of the last entry with that name, none when that has no value. -/
structure Gathered (entries : Settings) (settings : AddonSettings) : Prop where
  keys_eq : settings.keys = (entries.map fun entry ↦ nameOf entry.1).eraseDups
  get?_eq : ∀ name, settings.get? name =
    (entries.reverse.find? fun entry ↦ nameOf entry.1 == name).map fun entry ↦
      settingsOf? entries entry.2

theorem gathered_putAll (entries : Settings) :
    Gathered entries (Table.putAll [] (entries.map (namedSection entries))) := by
  constructor
  · rw [Table.keys_putAll, List.map_map]
    simp only [Function.comp_def, namedSection]
  · intro name
    unfold namedSection
    rw [Table.get?_putAll_map]

end AddonFile

namespace Catalog

/-- The settings that hold for an addon: those of the last entry that has one of its names. -/
def lastSettings (given : AddonSettings) (kind : AddonKind) : Settings :=
  ((given.reverse.find? fun entry ↦ canonicalName entry.1 == kind.name).bind (·.2)).getD []

/-- An addon has the settings of one entry, whatever stands under its other names. -/
theorem settingsOf_ofSettings (given : AddonSettings) (kind : AddonKind) :
    settingsOf (ofSettings given) kind = lastSettings given kind := by
  have hget := Table.get?_putAll_map (fun entry : String × Option Settings ↦ canonicalName entry.1)
    (fun entry ↦ entry.2) given kind.name
  unfold settingsOf lastSettings ofSettings
  rw [hget]
  cases given.reverse.find? fun entry ↦ canonicalName entry.1 == kind.name with
  | none => rfl
  | some entry => rfl

/-- The kube-proxy addon is made of one mapping: each of its settings is the entry of that mapping,
or the default. -/
structure Configured (settings : Settings) (proxy : KubeProxy) : Prop where
  name_eq : proxy.name = (settings.get? (.str "name")).getD (.str "kube-proxy")
  scope_eq : proxy.scope = (settings.get? (.str "namespace")).getD (.str "kube-system")
  imageBuild_eq : proxy.imageBuild = (settings.get? (.str "image_build")).getD (.str "eksbuild.1")

theorem configured_kubeProxy (given : AddonSettings) :
    Configured (lastSettings given .kubeProxy) (kubeProxy (ofSettings given)) := by
  unfold kubeProxy
  rw [settingsOf_ofSettings]
  exact ⟨rfl, rfl, rfl⟩

end Catalog

namespace AddonFile

open AddonUpkeep.Catalog

variable {files : FileTree} {path : Path} {text : String} {entries : Settings}

/-- A file of a mapping is read entry by entry, up to the first that is refused. -/
theorem load_eq (hfile : files.find path = .file text)
    (hparse : Yaml.parse (unifyLines text.toList) = .ok (.map entries)) :
    load files path = match entries.find? isRefused with
      | some entry => .error (entryFault path entry.1)
      | none => .ok (Table.putAll [] (entries.map (namedSection entries))) := by
  have hload : load files path = ofText path text := by
    unfold load
    rw [hfile]
  have htext : ofText path text = ofSetting path (.map entries) := by
    unfold ofText
    rw [hparse]
  rw [hload, htext]
  exact addEntries_eq path entries [] entries

/-- Where all keys have a text, the values alone decide. -/
theorem load_of_texts (hfile : files.find path = .file text)
    (hparse : Yaml.parse (unifyLines text.toList) = .ok (.map entries))
    (htexts : ∀ entry ∈ entries, entry.1.hasText = true) :
    load files path = match entries.find? fun entry ↦ !isSection entry.2 with
      | some entry => .error (.config (.settingsNoMapping entry.1.text path.text))
      | none => .ok (Table.putAll [] (entries.map (namedSection entries))) := by
  have hsame : entries.find? isRefused = entries.find? fun entry ↦ !isSection entry.2 :=
    List.find?_congr fun entry hentry ↦ by simp [isRefused, htexts entry hentry]
  rw [load_eq hfile hparse, hsame]
  cases hfirst : entries.find? fun entry ↦ !isSection entry.2 with
  | none => rfl
  | some entry =>
    have htext := htexts entry (List.mem_of_find?_eq_some hfirst)
    simp [entryFault, htext]

/-- From a file to the addon.  Where all keys have a text, the file is refused when some value is
neither left out nor a mapping, by the key of the first such entry.  Otherwise every name stands
where it came first with the settings of its last entry, and the addon has the settings of the last
of these under one of its names.  A key without a text ends the reading with a fault of its own,
which is not the one of a file. -/
theorem load_resolves (hfile : files.find path = .file text)
    (hparse : Yaml.parse (unifyLines text.toList) = .ok (.map entries)) :
    ((∀ entry ∈ entries, entry.1.hasText = true) →
      ((∃ fault, load files path = .error fault ∧ fault.kind = .invalidFile) ↔
        ∃ entry ∈ entries, isSection entry.2 = false) ∧
      (∀ entry, (entries.find? fun entry ↦ !isSection entry.2) = some entry →
        load files path = .error (.config (.settingsNoMapping entry.1.text path.text))) ∧
      ((∀ entry ∈ entries, isSection entry.2 = true) → ∃ settings,
        load files path = .ok settings ∧ Gathered entries settings ∧
        Configured (lastSettings settings .kubeProxy) (kubeProxy (ofSettings settings)))) ∧
    ∀ entry, (entries.find? fun entry ↦ !entry.1.hasText || !isSection entry.2) = some entry →
      entry.1.hasText = false → load files path = .error (.value .longText) := by
  refine ⟨fun htexts ↦ ?_, fun entry hfirst htext ↦ ?_⟩
  · have hload := load_of_texts hfile hparse htexts
    have hfault : ∀ entry, (entries.find? fun entry ↦ !isSection entry.2) = some entry →
        load files path = .error (.config (.settingsNoMapping entry.1.text path.text)) := by
      intro entry hfirst
      rw [hload, hfirst]
    have hsettings : (∀ entry ∈ entries, isSection entry.2 = true) →
        load files path = .ok (Table.putAll [] (entries.map (namedSection entries))) := by
      intro hsections
      have hnone : (entries.find? fun entry ↦ !isSection entry.2) = none :=
        List.find?_eq_none.mpr fun entry hentry ↦ by simp [hsections entry hentry]
      rw [hload, hnone]
    refine ⟨?_, hfault, ?_⟩
    · constructor
      · rintro ⟨fault, herror, -⟩
        by_contra hnone
        have hsections : ∀ entry ∈ entries, isSection entry.2 = true := by simpa using hnone
        rw [hsettings hsections] at herror
        cases herror
      · rintro ⟨entry, hentry, hsection⟩
        have hsome : (entries.find? fun entry ↦ !isSection entry.2).isSome :=
          List.find?_isSome.mpr ⟨entry, hentry, by simp [hsection]⟩
        obtain ⟨first, hfirst⟩ := Option.isSome_iff_exists.mp hsome
        exact ⟨_, hfault first hfirst, rfl⟩
    · intro hsections
      exact ⟨_, hsettings hsections, gathered_putAll entries, configured_kubeProxy _⟩
  · have hload := load_eq hfile hparse
    change entries.find? isRefused = some entry at hfirst
    rw [hload, hfirst]
    simp [entryFault, htext]

/-- Three entries of one addon, two of them of one name.  The name that comes last in the file is
the first in the table, so the addon has the settings of the other name, and of these alone. -/
theorem load_three_entries :
    let text := "proxy: \x7bname: a\x7d\nKube-Proxy: \x7bimage_build: b\x7d\n" ++
      "'PROXY ': \x7bnamespace: c\x7d\n"
    let files := FileTree.ofFiles [("addons.yaml", text)]
    let path := Path.ofString "addons.yaml"
    ∃ entries settings, files.find path = .file text ∧
      Yaml.parse (unifyLines text.toList) = .ok (.map entries) ∧
      load files path = .ok settings ∧ Gathered entries settings ∧
      Configured (lastSettings settings .kubeProxy) (kubeProxy (ofSettings settings)) ∧
      settings.keys = ["proxy", "kube-proxy"] ∧
      (kubeProxy (ofSettings settings)).tagFor "1.20" = "v1.20-b" := by
  intro text files path
  have hfile : files.find path = .file text := by decide +kernel
  have hread : (match Yaml.parse (unifyLines text.toList) with
      | .ok (.map entries) => some (entries.map fun entry ↦ (entry.1.hasText, isSection entry.2))
      | _ => none) = some (List.replicate 3 (true, true)) := by decide +kernel
  have hmade : (load files path).toOption.map (fun settings ↦
      (settings.keys, (kubeProxy (ofSettings settings)).tagFor "1.20")) =
        some (["proxy", "kube-proxy"], "v1.20-b") := by decide +kernel
  split at hread
  · next entries hparse =>
    have hgood : ∀ entry ∈ entries, (entry.1.hasText, isSection entry.2) = (true, true) := by
      intro entry hentry
      have hmem := List.mem_map_of_mem (f := fun entry ↦ (entry.1.hasText, isSection entry.2)) hentry
      rw [Option.some.inj hread] at hmem
      exact List.eq_of_mem_replicate hmem
    obtain ⟨-, -, hsettings⟩ := (load_resolves hfile hparse).1 fun entry hentry ↦
      (Prod.mk.inj (hgood entry hentry)).1
    obtain ⟨settings, hload, hgathered, hconfigured⟩ := hsettings fun entry hentry ↦
      (Prod.mk.inj (hgood entry hentry)).2
    rw [hload] at hmade
    obtain ⟨hkeys, htag⟩ := Prod.mk.inj (Option.some.inj hmade)
    exact ⟨entries, settings, hfile, hparse, hload, hgathered, hconfigured, hkeys, htag⟩
  · cases hread

/-- A key that is an integer of more digits than are written hides that its value is no mapping. -/
theorem ofSetting_long_key :
    let path := Path.ofString "addons.yaml"
    let entries : Settings := [(.int (16 ^ 3600 - 1), .int 5)]
    ¬ ((∃ fault, ofSetting path (.map entries) = .error fault ∧ fault.kind = .invalidFile) ↔
      ∃ entry ∈ entries, isSection entry.2 = false) := by
  intro path entries h
  have hlong : (Setting.int (16 ^ 3600 - 1)).hasText = false := by decide +kernel
  have hload : ofSetting path (.map entries) = .error (.value .longText) := by
    change addEntries path entries [] entries = _
    unfold addEntries
    rw [hlong]
    rfl
  obtain ⟨fault, hfault, hkind⟩ := h.mpr ⟨_, List.mem_cons_self, rfl⟩
  rw [hload] at hfault
  cases hfault
  cases hkind

end AddonFile

end AddonUpkeep
