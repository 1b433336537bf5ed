import AddonUpkeep.Config.AddonFile
import AddonUpkeep.Proofs.Addon.Resolution
import AddonUpkeep.Proofs.Cli.Names
import AddonUpkeep.Proofs.Text.Lowercase

/-!
# Names by their canonical names

Names are written on the command line, as keys of a file, and in calls.  The command line trims
them, the file lowers and trims them, and the catalog does both again.  None of this changes which
addon a name stands for.
-/

namespace AddonUpkeep.Catalog

open AddonUpkeep.Text AddonUpkeep.Cli

variable {name other : String}

theorem plainName_eq (name : String) : plainName name = lower (trim name) := trim_lower name

theorem lower_plainName (name : String) : lower (plainName name) = plainName name := by
  rw [plainName_eq, lower_lower]

theorem trim_plainName (name : String) : trim (plainName name) = plainName name := trim_trim _

theorem plainName_plainName (name : String) : plainName (plainName name) = plainName name := by
  rw [plainName, lower_plainName, trim_plainName]

theorem plainName_trim (name : String) : plainName (trim name) = plainName name := by
  rw [plainName_eq, plainName_eq, trim_trim]

/-- Which addon a name stands for is told by its plain name. -/
theorem canonicalName_congr (h : plainName name = plainName other) :
    canonicalName name = canonicalName other := by
  rw [canonicalName, canonicalName, h]

theorem canonicalName_cases (name : String) :
    ((plainName name = "kubeproxy" ∨ plainName name = "proxy") ∧
      canonicalName name = "kube-proxy") ∨
    (plainName name ≠ "kubeproxy" ∧ plainName name ≠ "proxy" ∧
      canonicalName name = plainName name) := by
  unfold canonicalName
  by_cases hfirst : plainName name = "kubeproxy"
  · exact .inl ⟨.inl hfirst, by rw [hfirst]; rfl⟩
  · by_cases hsecond : plainName name = "proxy"
    · exact .inl ⟨.inr hsecond, by rw [hsecond]; rfl⟩
    · refine .inr ⟨hfirst, hsecond, ?_⟩
      simp [aliases, Table.get?, Ne.symm hfirst, Ne.symm hsecond]

theorem canonicalName_canonicalName (name : String) :
    canonicalName (canonicalName name) = canonicalName name := by
  rcases canonicalName_cases name with ⟨-, h⟩ | ⟨-, -, h⟩
  · rw [h]
    decide +kernel
  · rw [h]
    exact (canonicalName_congr (plainName_plainName name)).trans h

theorem canonicalName_of_identify {kind : AddonKind} (h : identify name = .ok kind) :
    canonicalName name = kind.name := by
  unfold identify at h
  cases hfound : AddonKind.ofName? (canonicalName name) with
  | none =>
    rw [hfound] at h
    cases h
  | some found =>
    unfold AddonKind.ofName? at hfound
    split at hfound
    · next hname =>
      cases kind
      exact hname
    · cases hfound

/-- A name stands for an addon when its plain name is one of the names of the catalog. -/
theorem exists_identify_iff :
    (∃ kind, identify name = .ok kind) ↔
      plainName name ∈ ["kube-proxy", "kubeproxy", "proxy"] := by
  have hcanonical :
      (∃ kind, identify name = .ok kind) ↔ canonicalName name = "kube-proxy" := by
    constructor
    · rintro ⟨⟨⟩, hkind⟩
      exact canonicalName_of_identify hkind
    · exact fun h ↦ ⟨.kubeProxy, identify_of_canonicalName h⟩
  rw [hcanonical]
  rcases canonicalName_cases name with ⟨hplain, h⟩ | ⟨hfirst, hsecond, h⟩
  · simp [h, hplain]
  · simp [h, hfirst, hsecond]

/-- What the command line reads of the items of a list stands for the same addons as the items. -/
theorem map_canonicalName_addonNames (list : String) :
    (addonNames list).map canonicalName =
      ((itemsOf list).filter (!isBlankText ·)).map canonicalName := by
  have hkept : (fun item ↦ !(trim item).isEmpty) = fun item ↦ !isBlankText item := by
    funext item
    rw [Bool.eq_iff_iff, Bool.not_eq_true', Bool.not_eq_true', ← Bool.not_eq_true,
      ← Bool.not_eq_true, String.isEmpty_iff, trim_eq_empty_iff]
  have hsame : canonicalName ∘ trim = canonicalName := by
    funext item
    rw [Function.comp_apply]
    exact canonicalName_congr (plainName_trim item)
  rw [addonNames_eq, List.filter_map, List.map_map, hsame]
  exact congrArg (fun keeps ↦ ((itemsOf list).filter keeps).map canonicalName) hkept

/-- The forms of a name agree.  Trimming and lowering can be done in either order, and what is left
is trimmed and in lower case.  The canonical name is that of the canonical name itself, of the name
as the command line passes it on, and of the name as a file stores it.  The names that stand for an
addon are those whose plain names the catalog lists. -/
theorem canonicalName_normal (name : String) :
    (plainName name = lower (trim name) ∧ lower (plainName name) = plainName name ∧
      trim (plainName name) = plainName name) ∧
    canonicalName (canonicalName name) = canonicalName name ∧
    (canonicalName (trim name) = canonicalName name ∧
      ∀ list, (addonNames list).map canonicalName =
        ((itemsOf list).filter (!isBlankText ·)).map canonicalName) ∧
    (canonicalName (plainName name) = canonicalName name ∧
      ∀ key : Setting, canonicalName (AddonFile.nameOf key) = canonicalName key.text) ∧
    ((∃ kind, identify name = .ok kind) ↔
      plainName name ∈ ["kube-proxy", "kubeproxy", "proxy"]) := by
  refine ⟨⟨plainName_eq name, lower_plainName name, trim_plainName name⟩,
    canonicalName_canonicalName name,
    ⟨canonicalName_congr (plainName_trim name), map_canonicalName_addonNames⟩,
    ⟨canonicalName_congr (plainName_plainName name),
      fun key ↦ canonicalName_congr (plainName_plainName key.text)⟩, exists_identify_iff⟩

/-- The capital sigma at the end of a name becomes the final one, with blanks behind it or not. -/
example : plainName " ΟΔΟΣ\u2003" = "οδο\u03C2" ∧ lower (trim " ΟΔΟΣ\u2003") = "οδο\u03C2" := by
  decide +kernel

end AddonUpkeep.Catalog
