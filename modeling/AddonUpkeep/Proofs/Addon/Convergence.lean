import AddonUpkeep.Proofs.Addon.Completeness
import AddonUpkeep.Proofs.Addon.Target

/-!
# After an update

An update that succeeds leaves a memory settled: the DaemonSet is not there, or it has the image tag
for the version.  What an update writes is found where it was, and its image can be read again when
its tag has no colon.  So a check that follows passes.
-/

namespace AddonUpkeep

namespace KubeProxy

variable {proxy : KubeProxy} {host : Host} {version : String} {daemonSet : Json}

theorem passes_of_currentImage {image : Image} (hbuild : proxy.imageBuild.hasText = true)
    (himage : proxy.currentImage daemonSet = .ok image) (htag : image.tag = proxy.tagFor version) :
    proxy.passes version (some daemonSet) = .ok true := by
  rw [passes, expectedTag_eq_ok_iff.mpr ⟨hbuild, rfl⟩, ok_bind, himage, ok_bind, htag,
    beq_self_eq_true]
  rfl

/-- The DaemonSet of an assessment has the tag for the version, or gets it. -/
theorem passes_of_assess {assessment : Option Json} (hbuild : ':' ∉ proxy.imageBuild.text.toList)
    (h : proxy.assess host version daemonSet = .ok assessment) :
    proxy.passes version (some (assessment.getD daemonSet)) = .ok true := by
  obtain ⟨hshows, -, label, allowed, image, hlabel, -, himage, hcases⟩ := assess_eq_ok h
  rcases hcases with ⟨rfl, htag, -⟩ | ⟨updated, rfl, -, halike⟩
  · exact passes_of_currentImage hshows.imageBuild himage htag
  · obtain ⟨hheld, hrepository, -⟩ := currentImage_eq_ok himage
    have hwritten : proxy.currentImage updated = .ok _ := currentImage_of_hasImage
      (halike.hasImage hheld) hrepository (colon_not_mem_tagFor hlabel hbuild)
    exact passes_of_currentImage hshows.imageBuild hwritten rfl

/-- What a memory has of the DaemonSet passes the check for a version. -/
def Settled (proxy : KubeProxy) (version : String) (session : Session Memory) : Prop :=
  (proxy.ifPresent (session.cluster.found session.host proxy.name proxy.scope)).bind
    (proxy.passes version) = .ok true

theorem isUpToDate_of_settled {session : Session Memory} (h : proxy.Settled version session) :
    ((proxy.isUpToDate Memory.cluster version).runOn session).1 = .ok true := by
  rw [outcome_isUpToDate, show Memory.cluster.fetch = Memory.fetch from rfl, Memory.runOn_fetch]
  exact h

/-- An update that succeeds leaves the memory settled. -/
theorem settled_of_apply {session : Session Memory} {outcome : Outcome}
    (hfiled : Memory.Filed session.cluster.store)
    (hbuild : ':' ∉ proxy.imageBuild.text.toList)
    (hok : ((proxy.apply Memory.cluster version false).runOn session).1 = .ok outcome) :
    proxy.Settled version ((proxy.apply Memory.cluster version false).runOn session).2 := by
  unfold Settled
  rw [host_apply_memory]
  rcases found_of_apply hfiled hok with
    ⟨-, hproposal, hafter⟩ | ⟨daemonSet, sent, -, -, hassess, hafter, -⟩
  · obtain ⟨present, hpresent, hassess⟩ := bind_eq_ok_iff.mp hproposal
    rw [hafter, hpresent]
    cases present with
    | none => rfl
    | some daemonSet =>
      have hpasses := passes_of_assess hbuild hassess
      exact hpasses
  · have hpasses := passes_of_assess hbuild hassess
    rw [hafter]
    exact hpasses

end KubeProxy

theorem Result.isSuccess_mapError_iff {α : Type} {addon : String} {outcome : Except Fault α} :
    (⟨addon, outcome.mapError Fault.message⟩ : Result α).isSuccess = true ↔
      ∃ value, outcome = .ok value := by
  cases outcome with
  | ok value => exact ⟨fun _ ↦ ⟨value, rfl⟩, fun _ ↦ rfl⟩
  | error fault => simp [isSuccess, Except.mapError, Except.isOk, Except.toBool]

namespace Summary

open AddonUpkeep.Catalog

variable {α : Type} {names : List String} {message : String}

/-- A summary is a success when no name is unknown and all results are successes. -/
theorem isSuccess_ofResults_iff {calls : α → Bool} {results : List (Result α)} :
    (ofResults calls names results message).isSuccess = true ↔
      (∀ name ∈ names, isUnknown name = false) ∧ ∀ result ∈ results, result.isSuccess = true := by
  change (names.filter isUnknown ++ _).isEmpty = true ↔ _
  simp [List.isEmpty_iff, List.filter_eq_nil_iff]

/-- A check that finds all addons to match flags no name. -/
theorem flagged_ofResults_eq_nil {results : List (Result Bool)}
    (hresults : ∀ result ∈ results, result.value = .ok true) :
    (ofResults (!·) names results message).flagged = [] := by
  change (List.filter _ (List.map _ (unknownNames names) ++ results.map knownEntry)).map _ = []
  rw [List.map_eq_nil_iff, List.filter_eq_nil_iff]
  intro entry hentry
  rcases List.mem_append.mp hentry with hunknown | hknown
  · obtain ⟨name, -, rfl⟩ := List.mem_map.mp hunknown
    exact Bool.false_ne_true
  · obtain ⟨result, hresult, rfl⟩ := List.mem_map.mp hknown
    simp [knownEntry, Entry.value?, hresults result hresult, Except.toOption]

variable (settings : Table String (Option Settings)) (version : String)

/-- After an update of an addon that succeeds, a check finds the addon to match. -/
theorem value_of_check {session : Session Memory} (log : Log) (kind : AddonKind)
    (hfiled : Memory.Filed session.cluster.store)
    (hbuild : ':' ∉ (kubeProxy settings).imageBuild.text.toList) :
    let updated := (updateResult settings Memory.cluster version false kind).runOn session
    let addon := Catalog.addon settings Memory.cluster kind
    updated.1.isSuccess = true →
      ((addon.check version).runOn (updated.2.noting log)).1.value = .ok true := by
  cases kind
  intro updated addon hsuccess
  obtain ⟨before, behind, hupdate⟩ :=
    runOn_updateResult settings Memory.cluster version false session .kubeProxy
  obtain ⟨later, hcheck⟩ := runOn_checkOne settings Memory.cluster version (updated.2.noting log)
    .kubeProxy
  have hupdated : updated = _ := hupdate
  rw [hupdated] at hsuccess
  obtain ⟨outcome, happly⟩ := Result.isSuccess_mapError_iff.mp hsuccess
  have hsettled : (kubeProxy settings).Settled version
      ((addon.apply version false).runOn (session.noting before)).2 :=
    KubeProxy.settled_of_apply hfiled hbuild happly
  have hpasses : ((addon.isUpToDate version).runOn (updated.2.noting log)).1 = .ok true := by
    rw [hupdated]
    exact KubeProxy.isUpToDate_of_settled hsettled
  rw [hcheck, hpasses]
  rfl

/-- After updates that all succeed, a check finds all addons to match. -/
theorem value_of_checkResults {session : Session Memory} (log : Log)
    (hfiled : Memory.Filed session.cluster.store)
    (hbuild : ':' ∉ (kubeProxy settings).imageBuild.text.toList) :
    let updated := (updateResults settings Memory.cluster names version false).runOn session
    (∀ result ∈ updated.1, result.isSuccess = true) →
      ∀ result ∈ ((checkResults settings Memory.cluster names version).runOn
        (updated.2.noting log)).1, result.value = .ok true := by
  unfold updateResults checkResults
  rcases kinds_eq (nodup_namedKinds names) with hkinds | hkinds
  · rw [hkinds]
    intro updated _ result hresult
    cases hresult
  · rw [hkinds]
    intro updated hsuccess result hresult
    obtain rfl := List.mem_singleton.mp hresult
    exact value_of_check settings version log .kubeProxy hfiled hbuild
      (hsuccess _ List.mem_cons_self)

/-- After an update that succeeds, a check of the same names succeeds and flags none. -/
theorem check_passes_after_update (given : Table String (Option Settings))
    (edits : List Memory.Edit) (memory : Memory) (log : Log) (host : Host) (names : List String)
    (version : String)
    (hbuild : ':' ∉ (kubeProxy (ofSettings given)).imageBuild.text.toList) :
    let settings := ofSettings given
    let start : Session Memory := ⟨{ memory with store := (Memory.edited edits).store }, log, host⟩
    let updated := (update settings Memory.cluster names version false).runOn start
    let checked := (check settings Memory.cluster names version).runOn updated.2
    updated.1.isSuccess = true → checked.1.isSuccess = true ∧ checked.1.flagged = [] := by
  intro settings start updated checked hsuccess
  have hfiled : Memory.Filed start.cluster.store := Memory.filed_edited edits
  obtain ⟨first, told, hupdate⟩ := runOn_update settings Memory.cluster names version false start
  obtain ⟨second, told', hcheck⟩ := runOn_check settings Memory.cluster names version updated.2
  have hupdated : updated = _ := hupdate
  have hchecked : checked = _ := hcheck
  rw [hupdated, isSuccess_ofResults_iff] at hsuccess
  obtain ⟨hnames, hresults⟩ := hsuccess
  have hcurrent : ∀ result ∈ ((checkResults settings Memory.cluster names version).runOn
      (updated.2.noting second)).1, result.value = .ok true := by
    rw [hupdated]
    exact value_of_checkResults settings version second hfiled hbuild hresults
  rw [hchecked]
  refine ⟨isSuccess_ofResults_iff.mpr ⟨hnames, fun result hresult ↦ ?_⟩,
    flagged_ofResults_eq_nil hcurrent⟩
  rw [Result.isSuccess, hcurrent result hresult]
  rfl

/-- A DaemonSet with an older tag is updated, under another name of the addon, and passes then. -/
theorem check_passes_after_newer_tag :
    let daemonSet := Json.obj [
      ("metadata", .obj [("name", .str "kube-proxy"), ("namespace", .str "kube-system")]),
      ("spec", .obj [("template", .obj [("spec", .obj
        [("containers", .arr [.obj [("image", .str "registry:v1.17")]])])])])]
    let memory : Memory := {}
    let start : Session Memory :=
      { cluster := { memory with store := (Memory.edited [.put daemonSet]).store } }
    let updated := (update (ofSettings []) Memory.cluster ["Proxy"] "1.20" false).runOn start
    let checked := (check (ofSettings []) Memory.cluster ["Proxy"] "1.20").runOn updated.2
    ':' ∉ (kubeProxy (ofSettings [])).imageBuild.text.toList ∧ updated.1.isSuccess = true ∧
      checked.1.isSuccess = true ∧ checked.1.flagged = [] := by
  have hbuild : ':' ∉ (kubeProxy (ofSettings [])).imageBuild.text.toList := by decide +kernel
  refine ⟨hbuild, by decide +kernel, ?_⟩
  exact check_passes_after_update [] _ _ [] .usual ["Proxy"] "1.20" hbuild (by decide +kernel)

end Summary

end AddonUpkeep
