import AddonUpkeep.Proofs.Addon.MemoryRun
import AddonUpkeep.Proofs.Version.Alphabet

/-!
# What updates come to

An update for a version turns a DaemonSet into a target.  The target depends on what the DaemonSet
was before earlier updates, and not on those, as long as all versions have the same architecture
label: the image that an update wrote is read again, its tag is replaced, and what was opened stays
open.
-/

namespace AddonUpkeep

namespace KubeProxy

open AddonUpkeep.Affinity AddonUpkeep.Workload

variable {proxy : KubeProxy} {host : Host} {version label : String} {daemonSet : Json}
  {allowed : Bool} {image : Image}

/-- The tag for a version has no colon, when the version can be read and the build has none. -/
theorem colon_not_mem_tagFor {label : String} (hlabel : archLabelFor version = .ok label)
    (hbuild : ':' ∉ proxy.imageBuild.text.toList) : ':' ∉ (proxy.tagFor version).toList := by
  obtain ⟨settled, hsettled, -⟩ := bind_eq_ok_iff.mp hlabel
  obtain ⟨found, hparse, -⟩ := bind_eq_ok_iff.mp hsettled
  have hversion := Version.colon_not_mem_of_parse hparse
  simp [tagFor, toString, hversion, hbuild]

/-- What an update makes of a DaemonSet: the document that it sends, or the one that it found when
it sends nothing. -/
def target (proxy : KubeProxy) (host : Host) (version : String) (daemonSet : Json) : Json :=
  match proxy.assess host version daemonSet with
  | .error _ | .ok none => daemonSet
  | .ok (some updated) => updated

/-- What an update reads of a DaemonSet, where nothing keeps it from showing what it reads. -/
structure Reads (proxy : KubeProxy) (host : Host) (label : String) (daemonSet : Json)
    (allowed : Bool) (image : Image) : Prop where
  shows : proxy.Shows
  notes : host.Notes daemonSet
  hasValue_eq : hasValue daemonSet label arm64 = .ok allowed
  currentImage_eq : proxy.currentImage daemonSet = .ok image

/-- An image reference that is written again with another tag. -/
def Retagged (image : Image) (tag : String) (old new : Json) : Prop :=
  old = .str image.reference ∧ new = .str { image with tag }.reference

theorem reads_of_assess {assessment : Option Json} (hlabel : archLabelFor version = .ok label)
    (h : proxy.assess host version daemonSet = .ok assessment) :
    ∃ allowed image, Reads proxy host label daemonSet allowed image := by
  obtain ⟨hshows, hnotes, label', allowed, image, hlabel', hallowed, himage, -⟩ := assess_eq_ok h
  obtain rfl : label' = label := Except.ok.inj (hlabel'.symm.trans hlabel)
  exact ⟨allowed, image, hshows, hnotes, hallowed, himage⟩

/-- What is read of a DaemonSet decides the assessment. -/
theorem Reads.assess_eq (h : Reads proxy host label daemonSet allowed image)
    (hlabel : archLabelFor version = .ok label) :
    ∃ updated, Alike (Retagged image (proxy.tagFor version)) (Opens label allowed) daemonSet
        updated ∧
      proxy.assess host version daemonSet =
        .ok (if image.tag = proxy.tagFor version ∧ allowed = true then none
          else some updated) := by
  obtain ⟨hshows, hnotes, hallowed, himage⟩ := h
  obtain ⟨reference, hreference, -⟩ := bind_eq_ok_iff.mp himage
  obtain ⟨containers, hcontainers, -⟩ := bind_eq_ok_iff.mp hreference
  obtain ⟨updated, hupdated, halike⟩ := renewed_ok (proxy.tagFor version) hallowed himage
  refine ⟨updated, halike, ?_⟩
  unfold assess
  rw [mapError_eq_ok_iff.mpr hlabel, ok_bind, mapError_eq_ok_iff.mpr hallowed, ok_bind, hcontainers,
    ok_bind, Setting.checkText_eq_ok_iff.mpr hshows.name, ok_bind,
    unlessFault_eq_ok_iff.mpr hnotes, ok_bind, himage, ok_bind,
    expectedTag_eq_ok_iff.mpr ⟨hshows.imageBuild, rfl⟩, ok_bind, hupdated]
  by_cases hsame : image.tag = proxy.tagFor version ∧ allowed = true
  · rw [if_pos hsame, if_pos (by simpa using hsame)]
    rfl
  · rw [if_neg hsame, if_neg (by simpa using hsame)]
    rfl

/-- A DaemonSet and its target are alike as an update leaves them, also when nothing is sent. -/
theorem Reads.alike_target (h : Reads proxy host label daemonSet allowed image)
    (hlabel : archLabelFor version = .ok label) :
    Alike (Retagged image (proxy.tagFor version)) (Opens label allowed) daemonSet
      (proxy.target host version daemonSet) := by
  obtain ⟨updated, halike, hassess⟩ := h.assess_eq hlabel
  unfold target
  rw [hassess]
  by_cases hsame : image.tag = proxy.tagFor version ∧ allowed = true
  · -- the image that would be written is the one that is there
    have hunique : Relator.RightUnique (Alike Eq Eq) :=
      rightUnique_alike (fun _ _ _ h h' ↦ h.symm.trans h') fun _ _ _ h h' ↦ h.symm.trans h'
    have hupdated : updated = daemonSet := by
      refine hunique (halike.mono ?_ ?_) (Alike.refl (fun _ ↦ rfl) (fun _ ↦ rfl) daemonSet)
      · rintro old new ⟨rfl, rfl⟩
        rw [← hsame.1]
      · intro old new hopens
        rw [Opens, if_neg (by simp [hsame.2])] at hopens
        exact hopens.symm
    rw [if_pos hsame]
    rw [hupdated] at halike
    exact halike
  · rw [if_neg hsame]
    exact halike

/-- The target of a DaemonSet is read again: with the tag for the version, and with arm64 where some
expression is on the label. -/
theorem Reads.reads_target (h : Reads proxy host label daemonSet allowed image)
    (hlabel : archLabelFor version = .ok label) (hbuild : ':' ∉ proxy.imageBuild.text.toList) :
    ∃ still, Reads proxy host label (proxy.target host version daemonSet) still
        { image with tag := proxy.tagFor version } ∧
      (allowed = true → still = true) ∧ (still = true ↔ Selects label daemonSet) := by
  have halike := h.alike_target hlabel
  obtain ⟨still, hstill, hkept, hselects⟩ := hasValue_of_alike h.hasValue_eq halike
  obtain ⟨hheld, hrepository, -⟩ := currentImage_eq_ok h.currentImage_eq
  have himage : proxy.currentImage (proxy.target host version daemonSet) = .ok _ :=
    currentImage_of_hasImage (halike.hasImage hheld) hrepository
      (colon_not_mem_tagFor hlabel hbuild)
  have hnotes : host.Notes (proxy.target host version daemonSet) :=
    notes_of_renewal (halike.mono (fun _ _ h ↦ ⟨_, h.2⟩) fun _ _ ↦ id) h.notes
  exact ⟨still, ⟨h.shows, hnotes, hstill, himage⟩, hkept, hselects⟩

/-- The target for a version is the same behind an update for another one. -/
theorem target_target {first second : String} (hfirst : archLabelFor first = .ok label)
    (hsecond : archLabelFor second = .ok label) (hbuild : ':' ∉ proxy.imageBuild.text.toList)
    (host : Host) (daemonSet : Json) :
    proxy.target host second (proxy.target host first daemonSet) =
      proxy.target host second daemonSet := by
  cases hassess : proxy.assess host first daemonSet with
  | error fault =>
    have hsame : proxy.target host first daemonSet = daemonSet := by rw [target, hassess]
    rw [hsame]
  | ok assessment =>
    obtain ⟨allowed, image, hreads⟩ := reads_of_assess hfirst hassess
    obtain ⟨still, hagain, hkept, -⟩ := hreads.reads_target hfirst hbuild
    have hboth : Alike (Retagged image (proxy.tagFor second)) (Opens label allowed) daemonSet
        (proxy.target host second (proxy.target host first daemonSet)) := by
      apply Alike.comp (hreads.alike_target hfirst) (hagain.alike_target hsecond)
      · rintro a b c ⟨hold, -⟩ ⟨-, hnew⟩
        exact ⟨hold, hnew⟩
      · exact fun _ _ _ hab hbc ↦ hab.comp hbc hkept
    refine rightUnique_alike ?_ rightUnique_opens hboth (hreads.alike_target hsecond)
    rintro old new new' ⟨-, rfl⟩ ⟨-, rfl⟩
    rfl

/-- A target is settled when some expression is on the label.  Otherwise an update for the same
version sends it once more. -/
theorem assess_target {updated : Json} (hlabel : archLabelFor version = .ok label)
    (hbuild : ':' ∉ proxy.imageBuild.text.toList)
    (h : proxy.assess host version daemonSet = .ok (some updated)) :
    (Selects label daemonSet → proxy.assess host version updated = .ok none) ∧
      (¬ Selects label daemonSet → proxy.assess host version updated = .ok (some updated)) := by
  have hupdated : proxy.target host version daemonSet = updated := by rw [target, h]
  have hfixed := target_target hlabel hlabel hbuild host daemonSet
  obtain ⟨allowed, image, hreads⟩ := reads_of_assess hlabel h
  obtain ⟨still, hagain, -, hselects⟩ := hreads.reads_target hlabel hbuild
  rw [hupdated] at hagain hfixed
  obtain ⟨again, -, hassess⟩ := hagain.assess_eq hlabel
  constructor
  · intro hon
    rw [hassess, if_pos ⟨rfl, hselects.mpr hon⟩]
  · intro hoff
    rw [if_neg fun hboth ↦ hoff (hselects.mp hboth.2)] at hassess
    rw [target, hassess] at hfixed
    dsimp only at hfixed
    rw [hassess, hfixed]

end KubeProxy

end AddonUpkeep
