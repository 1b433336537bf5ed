import AddonUpkeep.Proofs.Config.Faults
import AddonUpkeep.Proofs.Yaml.Construction
import AddonUpkeep.Proofs.Yaml.Syntax
import AddonUpkeep.Proofs.Yaml.Values

/-!
# Which texts of a settings file nobody foresaw

The text of a settings file gives a mapping for every name, or the file is refused as a file of
settings.  There is a third way out: an escape or a number that the syntax cannot make, a scalar
that is no value of its kind, nodes that are nested too deeply, mappings that are merged in too long
a chain, and a key without a text end the reading with a fault that is not translated into one of
the file.
-/

namespace AddonUpkeep

open AddonUpkeep.Text

namespace Yaml

theorem isForeseen_of_charOfCode {code : Nat} {fault : Fault}
    (h : charOfCode code = .error (.value fault)) : fault.isForeseen = false := by
  unfold charOfCode at h
  split at h
  · cases h
    rfl
  · split at h
    · cases h
      rfl
    · cases h

theorem SyntaxFault.isForeseen {chars : List Char} {fault : Fault} (h : SyntaxFault chars fault) :
    fault.isForeseen = false := by
  cases h with
  | escape _ _ hcode => exact isForeseen_of_charOfCode hcode
  | version => rfl
  | nesting => rfl

/-- No tag has a kind of faults that is foreseen. -/
theorem isForeseen_of_scalarValue {tag : Tag} {chars : List Char} {fault : Fault}
    (h : scalarValue? tag chars = some (.error (.value fault))) : fault.isForeseen = false := by
  have hkinds : ∀ kind ∈ tag.faultKinds, kind.isForeseen = false := by
    cases tag <;> decide
  exact hkinds fault.kind (kind_mem_faultKinds h)

theorem Graph.HasFault.isForeseen {graph : Graph} {fault : Fault} (h : graph.HasFault fault) :
    fault.isForeseen = false := by
  cases h with
  | merging => rfl
  | node _ hfault =>
    cases hfault with
    | scalar _ h => exact isForeseen_of_scalarValue h
    | mapping _ _ h =>
      cases h with
      | scalar h => exact isForeseen_of_scalarValue h
      | moment => rfl
      | endless => rfl

end Yaml

namespace AddonFile

/-- The faults of a text that are not translated into one of its file: those of its form, of its
nodes and of their merging, and of a key without a text. -/
inductive Stray (chars : List Char) : Fault → Prop
  | form {fault : Fault} (hread : Yaml.Graph.ofText chars = .error (.value fault))
      (hshown : Yaml.SyntaxFault chars fault) : Stray chars fault
  | content {graph : Yaml.Graph} {fault : Fault} (hread : Yaml.Graph.ofText chars = .ok graph)
      (hsetting : graph.setting = .error (.value fault)) (hfault : graph.HasFault fault) :
      Stray chars fault
  | key {entries : Settings} {key value : Setting} (hparse : Yaml.parse chars = .ok (.map entries))
      (hfirst : entries.find? isRefused = some (key, value)) (hkey : key.hasText = false) :
      Stray chars (.value .longText)

/-- The faults of a file that is refused as one of settings.  Each of them names the file. -/
inductive OfForm (path : Path) : Fault → Prop
  | malformed : OfForm path (.config (.fileMalformed path.text))
  | noMapping : OfForm path (.config (.fileNoMapping path.text))
  | noSettings (name : String) : OfForm path (.config (.settingsNoMapping name path.text))

variable {files : FileTree} {path : Path} {text : String} {chars : List Char} {fault : Fault}

theorem OfForm.kind_eq (h : OfForm path fault) : fault.kind = .invalidFile := by
  cases h with
  | malformed => rfl
  | noMapping => rfl
  | noSettings => rfl

theorem Stray.isForeseen (h : Stray chars fault) : fault.isForeseen = false := by
  cases h with
  | form _ hshown => exact hshown.isForeseen
  | content _ _ hfault => exact hfault.isForeseen
  | key => rfl

/-- A document that is refused for a fault is refused for one that its text or its nodes have. -/
theorem stray_of_parse (h : Yaml.parse chars = .error (.value fault)) : Stray chars fault := by
  unfold Yaml.parse at h
  cases hread : Yaml.Graph.ofText chars with
  | error refusal =>
    rw [hread, error_bind] at h
    obtain rfl := Except.error.inj h
    exact .form hread (Yaml.Graph.syntaxFault_of_ofText hread)
  | ok graph =>
    rw [hread, ok_bind] at h
    have hfault := graph.isFor_setting
    rw [h] at hfault
    exact .content hread h hfault

theorem parse_of_stray (h : Stray chars fault) :
    Yaml.parse chars = .error (.value fault) ∨ fault = .value .longText ∧
      ∃ entries key value, Yaml.parse chars = .ok (.map entries) ∧
        entries.find? isRefused = some (key, value) ∧ key.hasText = false := by
  cases h with
  | form hread => exact .inl (by rw [Yaml.parse, hread, error_bind])
  | content hread hsetting => exact .inl (by rw [Yaml.parse, hread, ok_bind, hsetting])
  | key hparse hfirst hkey => exact .inr ⟨rfl, _, _, _, hparse, hfirst, hkey⟩

/-- What is read from a file is what its text tells. -/
theorem load_of_file (hfile : files.find path = .file text) :
    load files path = match Yaml.parse (unifyLines text.toList) with
      | .ok setting => ofSetting path setting
      | .error refusal => .error (refusalFault path refusal) := by
  unfold load
  rw [hfile]
  rfl

/-- Every name of a file that is accepted has a mapping. -/
theorem isSome_of_load (hfile : files.find path = .file text) {settings : AddonSettings}
    (h : load files path = .ok settings) : ∀ entry ∈ settings, entry.2.isSome = true := by
  cases hparse : Yaml.parse (unifyLines text.toList) with
  | error refusal =>
    rw [load_of_file hfile, hparse] at h
    cases h
  | ok setting =>
    cases setting with
    | map entries =>
      rw [load_eq hfile hparse] at h
      split at h
      · cases h
      · next hnone =>
        obtain rfl := Except.ok.inj h
        have hgathered := gathered_putAll entries
        have hnodup : Table.keys (Table.putAll [] (entries.map (namedSection entries))) |>.Nodup :=
          hgathered.keys_eq ▸ nodup_eraseDups _
        rintro ⟨name, settings?⟩ hentry
        have hget := Table.get?_of_mem hnodup hentry
        rw [hgathered.get?_eq] at hget
        obtain ⟨found, hfound, rfl⟩ := Option.map_eq_some_iff.mp hget
        have hkept := List.find?_eq_none.mp hnone found
          (List.mem_reverse.mp (List.mem_of_find?_eq_some hfound))
        rw [isSome_settingsOf?]
        simp_all [isRefused]
    | null =>
      rw [load_of_file hfile, hparse] at h
      obtain rfl := Except.ok.inj h
      exact fun _ hentry ↦ by cases hentry
    | _ =>
      rw [load_of_file hfile, hparse] at h
      cases h

/-- A file is accepted when its document is empty, or a mapping of which no entry is refused. -/
theorem exists_load_iff (hfile : files.find path = .file text) :
    (∃ settings, load files path = .ok settings) ↔
      Yaml.parse (unifyLines text.toList) = .ok .null ∨
        ∃ entries, Yaml.parse (unifyLines text.toList) = .ok (.map entries) ∧
          ∀ entry ∈ entries, entry.1.hasText = true ∧ isSection entry.2 = true := by
  cases hparse : Yaml.parse (unifyLines text.toList) with
  | error refusal => simp [load_of_file hfile, hparse]
  | ok setting =>
    cases setting with
    | map entries =>
      have hnone : entries.find? isRefused = none ↔
          ∀ entry ∈ entries, entry.1.hasText = true ∧ isSection entry.2 = true := by
        simp [isRefused]
      have hload : (∃ settings, load files path = .ok settings) ↔
          entries.find? isRefused = none := by
        rw [load_eq hfile hparse]
        cases entries.find? isRefused with
        | none => simp
        | some entry => simp
      rw [hload, hnone]
      constructor
      · exact fun hentries ↦ .inr ⟨entries, rfl, hentries⟩
      · rintro (hnull | ⟨others, heq, hentries⟩)
        · cases hnull
        · cases heq
          exact hentries
    | null => simp [load_of_file hfile, hparse, ofSetting]
    | _ => simp [load_of_file hfile, hparse, ofSetting]

/-- A fault of a file is one of its form, or a stray one. -/
theorem ofForm_or_stray_of_load (hfile : files.find path = .file text)
    (h : load files path = .error fault) :
    OfForm path fault ∨ Stray (unifyLines text.toList) fault := by
  cases hparse : Yaml.parse (unifyLines text.toList) with
  | error refusal =>
    rw [load_of_file hfile, hparse] at h
    obtain rfl := Except.error.inj h
    cases refusal with
    | malformed violation => exact .inl .malformed
    | value fault => exact .inr (stray_of_parse hparse)
  | ok setting =>
    cases setting with
    | map entries =>
      rw [load_eq hfile hparse] at h
      split at h
      · next entry hfirst =>
        obtain rfl := Except.error.inj h
        cases hkey : entry.1.hasText with
        | true =>
          rw [entryFault, if_pos hkey]
          exact .inl (.noSettings _)
        | false =>
          rw [entryFault, if_neg (by rw [hkey]; decide)]
          exact .inr (.key hparse hfirst hkey)
      · cases h
    | null =>
      rw [load_of_file hfile, hparse] at h
      cases h
    | _ =>
      rw [load_of_file hfile, hparse] at h
      obtain rfl := Except.error.inj h
      exact .inl .noMapping

theorem load_of_stray (hfile : files.find path = .file text)
    (h : Stray (unifyLines text.toList) fault) : load files path = .error fault := by
  rcases parse_of_stray h with hparse | ⟨rfl, entries, key, value, hparse, hfirst, hkey⟩
  · rw [load_of_file hfile, hparse]
    rfl
  · rw [load_eq hfile hparse, hfirst]
    simp [entryFault, hkey]

/-- The text of a settings file gives a mapping for every name, or the file is refused as one of
settings, unless the text has a stray fault: then the reading ends with that fault, which is none of
the library.  Stray are a code of no character, a version of too many digits, nodes that are nested
too deeply, a scalar that its tag refuses, a mapping under a tag of scalars, mappings that are
merged in too long a chain, and a key without a text. -/
theorem load_told (hfile : files.find path = .file text) :
    (∀ settings, load files path = .ok settings → ∀ entry ∈ settings, entry.2.isSome = true) ∧
    ((∃ settings, load files path = .ok settings) ↔
      Yaml.parse (unifyLines text.toList) = .ok .null ∨
        ∃ entries, Yaml.parse (unifyLines text.toList) = .ok (.map entries) ∧
          ∀ entry ∈ entries, entry.1.hasText = true ∧ isSection entry.2 = true) ∧
    (∀ fault, load files path = .error fault →
      (OfForm path fault ∧ fault.kind = .invalidFile) ∨ Stray (unifyLines text.toList) fault) ∧
    ∀ fault, Stray (unifyLines text.toList) fault →
      load files path = .error fault ∧ fault.isForeseen = false := by
  refine ⟨fun _ ↦ isSome_of_load hfile, exists_load_iff hfile, fun fault hload ↦ ?_,
    fun fault hstray ↦ ⟨load_of_stray hfile hstray, hstray.isForeseen⟩⟩
  rcases ofForm_or_stray_of_load hfile hload with hform | hstray
  · exact .inl ⟨hform, hform.kind_eq⟩
  · exact .inr hstray

/-- An escape for the code behind the last one of a character. -/
theorem load_told_of_code :
    let text := "kube-proxy: \"\\U00110000\"\n"
    let files := FileTree.ofFiles [("addons.yaml", text)]
    let path := Path.ofString "addons.yaml"
    files.find path = .file text ∧ ∃ fault, load files path = .error fault ∧
      Stray (unifyLines text.toList) fault ∧ fault.isForeseen = false ∧
      fault.message = "chr() arg not in range(0x110000)" := by
  intro text files path
  have hfile : files.find path = .file text := by decide +kernel
  have hread : (match load files path with
      | .error fault => some (fault.kind, fault.message)
      | .ok _ => none) = some (.badValue, "chr() arg not in range(0x110000)") := by decide +kernel
  obtain ⟨-, -, hfaults, hstrays⟩ := load_told hfile
  split at hread
  · next fault hload =>
    obtain ⟨hkind, hmessage⟩ := Prod.mk.inj (Option.some.inj hread)
    have hstray : Stray (unifyLines text.toList) fault := by
      refine (hfaults fault hload).resolve_left fun hform ↦ ?_
      rw [hkind] at hform
      cases hform.2
    exact ⟨hfile, fault, hload, hstray, (hstrays fault hstray).2, hmessage⟩
  · cases hread

/-- A settings file with a hexadecimal mark in front of no digit gives no settings, and is not
refused as a file of settings. -/
theorem load_stray_of_bare_mark :
    let text := "kube-proxy:\n  image_build: 0x_\n"
    let files := FileTree.ofFiles [("addons.yaml", text)]
    let path := Path.ofString "addons.yaml"
    files.find path = .file text ∧
      ¬ ((∃ settings, load files path = .ok settings ∧
          ∀ entry ∈ settings, entry.2.isSome = true) ∨
        ∃ fault, load files path = .error fault ∧ fault.kind = .invalidFile) := by
  intro text files path
  have hfile : files.find path = .file text := by decide +kernel
  have hread : (match load files path with
      | .error fault => some fault.kind
      | .ok _ => none) = some .badValue := by decide +kernel
  refine ⟨hfile, ?_⟩
  rintro (⟨settings, hload, -⟩ | ⟨fault, hload, hkind⟩)
  · rw [hload] at hread
    cases hread
  · rw [hload] at hread
    dsimp only at hread
    rw [hkind] at hread
    cases hread

end AddonFile

end AddonUpkeep
