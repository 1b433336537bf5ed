import AddonUpkeep.Proofs.Addon.ArchLabel
import AddonUpkeep.Proofs.Addon.DryRun
import AddonUpkeep.Proofs.Addon.Sending
import AddonUpkeep.Proofs.Addon.Target
import AddonUpkeep.Proofs.Workload.Shape

/-!
# Checks and updates agree

A check and an update read the DaemonSet in the same way, but the update looks at its expressions
before it gets to the image, and shows more of what it reads.  In a DaemonSet of the expected shape
the expressions can always be searched, so as long as everything can be shown both end with the same
fault or find the same image.  Then an update has nothing left to do when the check passes and arm64
is allowed already.  It may find something to do and not have the room for it, though.
-/

namespace AddonUpkeep.KubeProxy

open AddonUpkeep.Affinity

variable {σ : Type} {proxy : KubeProxy} {version label : String} {daemonSet : Json}
  {reading : Except Fault Json} {fault : Fault}

/-- The reading tells that there is no DaemonSet. -/
def Absent (reading : Except Fault Json) : Prop :=
  ∃ fault, reading = .error fault ∧ fault.kind = .missingResource

/-- Some expression on the label lists arm64. -/
def AllowsArm64 (label : String) (daemonSet : Json) : Prop :=
  ∃ expressions, matchExpressions daemonSet = .ok expressions ∧
    ∃ expression ∈ expressions, allows label arm64 expression = .ok true

theorem allowsArm64_iff {allowed : Bool} (h : hasValue daemonSet label arm64 = .ok allowed) :
    AllowsArm64 label daemonSet ↔ allowed = true := by
  obtain ⟨expressions, hread, hfound⟩ := hasValue_iff h
  rw [AllowsArm64, hread, hfound]
  constructor
  · rintro ⟨found, hsame, hallows⟩
    obtain rfl := Except.ok.inj hsame
    exact hallows
  · exact fun hallows ↦ ⟨expressions, rfl, hallows⟩

/-- An update can show what it has to: its settings have texts, and what was read can be written to
the log. -/
def CanShow (proxy : KubeProxy) (host : Host) (reading : Except Fault Json) : Prop :=
  ∀ daemonSet, reading = .ok daemonSet → proxy.Shows ∧ host.Notes daemonSet

/-- An assessment fails on the image as reading it does. -/
theorem assess_of_currentImage {host : Host} (hname : proxy.name.hasText = true)
    (hnotes : host.Notes daemonSet) (hlabel : archLabelFor version = .ok label)
    (hshape : isShaped daemonSet = true) (himage : proxy.currentImage daemonSet = .error fault) :
    proxy.assess host version daemonSet = .error fault := by
  obtain ⟨allowed, hallowed⟩ := hasValue_of_isShaped label arm64 hshape
  unfold assess
  rw [mapError_eq_ok_iff.mpr hlabel, ok_bind, mapError_eq_ok_iff.mpr hallowed, ok_bind]
  cases hcontainers : proxy.containers daemonSet with
  | error problem =>
    -- the containers are read again on the way to the image, so this is the fault there
    rw [currentImage, imageReference, hcontainers, error_bind, error_bind] at himage
    rw [error_bind, Except.error.inj himage]
  | ok containers =>
    rw [ok_bind, Setting.checkText_eq_ok_iff.mpr hname, ok_bind, unlessFault_eq_ok_iff.mpr hnotes,
      ok_bind, himage]
    rfl

/-- A DaemonSet that is checked and one that is assessed end alike, and nothing is left to do when
the check passes and arm64 is allowed. -/
theorem assess_beside_passes {host : Host} (hshows : proxy.Shows) (hnotes : host.Notes daemonSet)
    (hlabel : archLabelFor version = .ok label) (hshape : isShaped daemonSet = true) :
    EndAlike (fun current proposed ↦ proposed = none ↔ current = true ∧ AllowsArm64 label daemonSet)
      (proxy.passes version (some daemonSet)) (proxy.assess host version daemonSet) := by
  rw [passes, expectedTag_eq_ok_iff.mpr ⟨hshows.imageBuild, rfl⟩]
  cases himage : proxy.currentImage daemonSet with
  | error fault =>
    rw [assess_of_currentImage hshows.name hnotes hlabel hshape himage]
    exact .failed fault
  | ok image =>
    obtain ⟨allowed, hallowed⟩ := hasValue_of_isShaped label arm64 hshape
    obtain ⟨updated, -, hassess⟩ := Reads.assess_eq ⟨hshows, hnotes, hallowed, himage⟩ hlabel
    rw [hassess, allowsArm64_iff hallowed]
    refine .made ?_
    rw [beq_iff_eq]
    split
    · next hsame => exact ⟨fun _ ↦ hsame, fun _ ↦ rfl⟩
    · next hdiffers => exact iff_of_false (Option.some_ne_none updated) hdiffers

/-- Nothing is left to do after a reading: there is no DaemonSet, or it allows arm64. -/
def NothingToOpen (label : String) (reading : Except Fault Json) : Prop :=
  Absent reading ∨ ∃ daemonSet, reading = .ok daemonSet ∧ AllowsArm64 label daemonSet

/-- A check and an update that can show what it has to end alike on one reading, and the update
proposes nothing when the check passes and there is nothing to open. -/
theorem proposal_beside_passes {host : Host} (hshow : CanShow proxy host reading)
    (hlabel : archLabelFor version = .ok label)
    (hshape : ∀ daemonSet, reading = .ok daemonSet → isShaped daemonSet = true) :
    EndAlike (fun current proposed ↦ proposed = none ↔ current = true ∧ NothingToOpen label reading)
      ((proxy.ifPresent reading).bind (proxy.passes version))
      (proxy.proposal host version reading) := by
  cases reading with
  | ok daemonSet =>
    have hopen : NothingToOpen label (.ok daemonSet) ↔ AllowsArm64 label daemonSet := by
      simp [NothingToOpen, Absent]
    obtain ⟨hshows, hnotes⟩ := hshow daemonSet rfl
    rw [hopen]
    exact assess_beside_passes hshows hnotes hlabel (hshape daemonSet rfl)
  | error fault =>
    unfold proposal ifPresent
    dsimp only
    split
    · next hkind =>
      rcases proxy.name.checkText_cases with hname | hname
      · rw [hname]
        exact .made ⟨fun _ ↦ ⟨rfl, .inl ⟨fault, rfl, hkind⟩⟩, fun _ ↦ rfl⟩
      · rw [hname]
        exact .failed _
    · exact .failed fault

/-- An update that cannot show what it has to fails. -/
theorem proposal_of_not_canShow {host : Host} (version : String) (h : ¬ CanShow proxy host reading) :
    ∃ fault, proxy.proposal host version reading = .error fault := by
  unfold CanShow at h
  push Not at h
  obtain ⟨daemonSet, rfl, hshows⟩ := h
  rw [proposal_ok]
  cases hassess : proxy.assess host version daemonSet with
  | error fault => exact ⟨fault, rfl⟩
  | ok assessment =>
    obtain ⟨hsettings, hnotes, -⟩ := assess_eq_ok hassess
    exact absurd hnotes (hshows hsettings)

section Plan

variable {cluster : Cluster σ} {session : Session σ}

/-- A dry run reports what an update proposes. -/
theorem outcome_dryRun {read : Except Fault Json × Session σ}
    (hread : (cluster.fetch proxy.name proxy.scope).runOn session = read) (version : String) :
    ((proxy.apply cluster version true).runOn session).1 =
      (proxy.proposal read.2.host version read.1).map
        fun proposed ↦ if proposed.isSome then .changePending else .noChangeNeeded := by
  obtain ⟨found, sent, hrun⟩ := runOn_apply proxy cluster version true session
  rw [hrun, hread]
  cases proxy.proposal read.2.host version read.1 with
  | error fault => rfl
  | ok proposed => cases proposed <;> rfl

/-- A dry run that fails is told by the real run, which sends nothing either. -/
theorem apply_of_dryRun_error
    (h : ((proxy.apply cluster version true).runOn session).1 = .error fault) (dryRun : Bool) :
    ((proxy.apply cluster version dryRun).runOn session).1 = .error fault ∧
      proxy.sends cluster version dryRun session = [] := by
  obtain ⟨hnone, -, ⟨hplan, -⟩ | ⟨found, hplan, hreal, hsends, -⟩ | ⟨hplan, -⟩⟩ :=
    dryRun_beside_run proxy cluster version session
  · cases hplan.symm.trans h
  · cases hplan.symm.trans h
    cases dryRun with
    | true => exact ⟨h, hnone⟩
    | false => exact ⟨hreal, hsends⟩
  · cases hplan.symm.trans h

/-- Either mode finds nothing to change when a dry run does. -/
theorem noChange_iff_dryRun (proxy : KubeProxy) (cluster : Cluster σ) (version : String)
    (session : Session σ) (dryRun : Bool) :
    ((proxy.apply cluster version dryRun).runOn session).1 = .ok .noChangeNeeded ↔
      ((proxy.apply cluster version true).runOn session).1 = .ok .noChangeNeeded := by
  cases dryRun with
  | true => rfl
  | false =>
    obtain ⟨-, -, ⟨hplan, hreal, -⟩ | ⟨fault, hplan, hreal, -⟩ | ⟨hplan, hreal⟩⟩ :=
      dryRun_beside_run proxy cluster version session
    · exact iff_of_true hreal hplan
    · rw [hreal, hplan]
    · refine iff_of_false (fun hsame ↦ ?_) (by rw [hplan]; simp)
      split at hreal
      · obtain ⟨document, log, -, hreal, -⟩ := hreal
        rw [hreal] at hsame
        generalize ((cluster.replace document).runOn _).1 = answer at hsame
        cases answer <;> cases hsame
      · obtain ⟨-, -, hreal, -⟩ := hreal
        cases hreal.symm.trans hsame

/-- A change is pending: a dry run reports it, and the real run sends one document, unless it has no
room to make that. -/
def ChangePending (proxy : KubeProxy) (cluster : Cluster σ) (version : String)
    (session : Session σ) : Prop :=
  let read := (cluster.fetch proxy.name proxy.scope).runOn session
  ((proxy.apply cluster version true).runOn session).1 = .ok .changePending ∧
    match hindrance read.2.host version read.1 with
    | none => ∃ document, proxy.sends cluster version false session = [document]
    | some fault => fault = .noRoom ∧ proxy.sends cluster version false session = [] ∧
      ((proxy.apply cluster version false).runOn session).1 = .error fault

theorem changePending_of_dryRun
    (h : ((proxy.apply cluster version true).runOn session).1 = .ok .changePending) :
    ChangePending proxy cluster version session := by
  obtain ⟨-, -, ⟨hplan, -⟩ | ⟨fault, hplan, -⟩ | ⟨-, hreal⟩⟩ :=
    dryRun_beside_run proxy cluster version session
  · cases hplan.symm.trans h
  · cases hplan.symm.trans h
  · refine ⟨h, ?_⟩
    let read := (cluster.fetch proxy.name proxy.scope).runOn session
    cases hhinders : hindrance read.2.host version read.1 with
    | none =>
      rw [hhinders] at hreal
      obtain ⟨document, log, hsends, -⟩ := hreal
      exact ⟨document, hsends⟩
    | some fault =>
      rw [hhinders] at hreal
      obtain ⟨hfault, -, hreal, hsends, -⟩ := hreal
      exact ⟨hfault, hsends, hreal⟩

end Plan

/-- A check tells what an update does on the same session, for every version that can be read and
every DaemonSet of the expected shape, as long as the update can show what it has to.  When the
check fails, so does the update, with the same fault and without sending anything.  When the
DaemonSet does not pass, a change is pending.  When it passes, there is nothing to change exactly
when it is absent or some expression on the label of the version lists arm64, and otherwise a change
is pending.  An update that cannot show what it has to fails and sends nothing, whatever the check
tells. -/
theorem check_tells_update (proxy : KubeProxy) (cluster : Cluster σ) (version : String)
    (session : Session σ) {found : Version} (hversion : Version.parse version = .ok found)
    (hshape : ∀ daemonSet,
      ((cluster.fetch proxy.name proxy.scope).runOn session).1 = .ok daemonSet →
        isShaped daemonSet = true) :
    let read := (cluster.fetch proxy.name proxy.scope).runOn session
    let checked := ((proxy.isUpToDate cluster version).runOn session).1
    let updated (dryRun : Bool) := ((proxy.apply cluster version dryRun).runOn session).1
    (CanShow proxy read.2.host read.1 →
      (∀ fault, checked = .error fault → ∀ dryRun,
        updated dryRun = .error fault ∧ proxy.sends cluster version dryRun session = []) ∧
      (checked = .ok false → ChangePending proxy cluster version session) ∧
      (checked = .ok true → ∃ label, archLabelFor version = .ok label ∧
        (∀ dryRun, updated dryRun = .ok .noChangeNeeded ↔ NothingToOpen label read.1) ∧
        (¬ NothingToOpen label read.1 → ChangePending proxy cluster version session))) ∧
    (¬ CanShow proxy read.2.host read.1 → ∃ fault, ∀ dryRun,
      updated dryRun = .error fault ∧ proxy.sends cluster version dryRun session = []) := by
  intro read checked updated
  have hread : (cluster.fetch proxy.name proxy.scope).runOn session = read := rfl
  obtain ⟨label, hlabel⟩ : ∃ label, archLabelFor version = .ok label :=
    ⟨_, archLabelFor_of_ok hversion⟩
  have hplan : updated true = (proxy.proposal read.2.host version read.1).map _ :=
    outcome_dryRun hread version
  refine ⟨fun hshow ↦ ?_, fun hshow ↦ ?_⟩
  · have hends : EndAlike _ _ (proxy.proposal read.2.host version read.1) :=
      proposal_beside_passes hshow hlabel hshape
    rw [← hread, ← outcome_isUpToDate, hread] at hends
    change EndAlike _ checked (proxy.proposal read.2.host version read.1) at hends
    generalize proxy.proposal read.2.host version read.1 = proposed at hends hplan
    generalize checked = verdict at hends
    cases hends with
    | failed fault =>
      refine ⟨fun told htold ↦ ?_, (nomatch ·), (nomatch ·)⟩
      obtain rfl := Except.error.inj htold
      exact apply_of_dryRun_error hplan
    | @made current proposed hnone =>
      have hpending (hsome : proposed ≠ none) : ChangePending proxy cluster version session := by
        obtain ⟨document, rfl⟩ := Option.ne_none_iff_exists'.mp hsome
        exact changePending_of_dryRun hplan
      refine ⟨fun _ ↦ by simp, fun hbehind ↦ ?_,
        fun hcurrent ↦ ⟨label, hlabel, fun dryRun ↦ ?_, ?_⟩⟩
      · obtain rfl := Except.ok.inj hbehind
        exact hpending fun h ↦ Bool.false_ne_true (hnone.mp h).1
      · obtain rfl := Except.ok.inj hcurrent
        have hsettled : proposed = none ↔ NothingToOpen label read.1 :=
          hnone.trans (and_iff_right rfl)
        rw [noChange_iff_dryRun, ← hsettled]
        change updated true = _ ↔ _
        rw [hplan]
        cases proposed <;> simp [Except.map]
      · obtain rfl := Except.ok.inj hcurrent
        exact fun hopen ↦ hpending fun h ↦ hopen (hnone.mp h).2
  · obtain ⟨fault, hfault⟩ := proposal_of_not_canShow version hshow
    rw [hfault] at hplan
    exact ⟨fault, apply_of_dryRun_error hplan⟩

/-- A DaemonSet that runs the tag for the version and does not look at the architecture of a node
passes, and still has a change pending. -/
theorem check_tells_update_without_label :
    let daemonSet := Json.obj [
      ("metadata", .obj [("name", .str "kube-proxy"), ("namespace", .str "kube-system")]),
      ("spec", .obj [("template", .obj [("spec", .obj
        [("containers", .arr [.obj [("image", .str "registry:v1.20-eksbuild.1")]])])])])]
    let proxy := KubeProxy.ofSettings []
    let session : Session Memory := { cluster := Memory.ofList [daemonSet] }
    let read := (Memory.cluster.fetch proxy.name proxy.scope).runOn session
    (∃ found, Version.parse "1.20" = .ok found) ∧
      (∀ held, read.1 = .ok held → isShaped held = true) ∧
      CanShow proxy read.2.host read.1 ∧
      ((proxy.isUpToDate Memory.cluster "1.20").runOn session).1 = .ok true ∧
      ChangePending proxy Memory.cluster "1.20" session := by
  intro daemonSet proxy session read
  obtain ⟨found, hversion⟩ : ∃ found, Version.parse "1.20" = .ok found := ⟨_, rfl⟩
  have hreading : read.1 = .ok daemonSet := rfl
  have hshape : ∀ held, read.1 = .ok held → isShaped held = true := by
    intro held hheld
    obtain rfl := Except.ok.inj (hreading.symm.trans hheld)
    decide +kernel
  have hshow : CanShow proxy read.2.host read.1 := by
    intro held hheld
    exact ⟨⟨rfl, rfl⟩, rfl⟩
  have hpasses : ((proxy.isUpToDate Memory.cluster "1.20").runOn session).1 = .ok true :=
    toOption_eq_some_iff.mp (by decide +kernel)
  obtain ⟨htells, -⟩ := check_tells_update proxy Memory.cluster "1.20" session hversion hshape
  obtain ⟨-, -, hsettled⟩ := htells hshow
  obtain ⟨label, -, -, hpending⟩ := hsettled hpasses
  refine ⟨⟨found, hversion⟩, hshape, hshow, hpasses, hpending ?_⟩
  rintro (⟨fault, hfault, -⟩ | ⟨held, hheld, expressions, hread, expression, hmem, -⟩)
  · cases hreading.symm.trans hfault
  · obtain rfl := Except.ok.inj (hreading.symm.trans hheld)
    obtain rfl : [] = expressions := Except.ok.inj hread
    cases hmem

/-- The check fails a DaemonSet with five hundred nested arrays, but the update that it tells of has
no room to copy the DaemonSet, and sends nothing. -/
theorem check_tells_not_deep :
    let proxy : KubeProxy := ⟨.str "kube-proxy", .str "kube-system", .str "eksbuild.1"⟩
    let cluster := Kubectl.cluster {}
    let session : Session Kubectl.Transcript :=
      { cluster := offering (workloadWithin "registry:v1.17" 500) }
    (∃ found, Version.parse "1.20" = .ok found) ∧
      isShaped (workloadWithin "registry:v1.17" 500) = true ∧
      ((proxy.isUpToDate cluster "1.20").runOn session).1 = .ok false ∧
      (∃ fault, ((proxy.apply cluster "1.20" false).runOn session).1 = .error fault ∧
        fault.kind = .depth) ∧
      proxy.sends cluster "1.20" false session = [] := by
  intro proxy cluster session
  have hoffers : session.cluster.Offers (workloadWithin "registry:v1.17" 500) :=
    offers_workloadWithin "registry:v1.17" (by decide)
  have hpasses : (proxy.passes "1.20" (some (workloadWithin "registry:v1.17" 500))) = .ok false :=
    toOption_eq_some_iff.mp (by decide +kernel)
  have hchecked : ((proxy.isUpToDate cluster "1.20").runOn session).1 = .ok false := by
    have hreading : ((cluster.fetch proxy.name proxy.scope).runOn session).1 =
        .ok (workloadWithin "registry:v1.17" 500) := fetch_of_offers hoffers
    rw [outcome_isUpToDate, ifPresent_eq_some_iff.mpr hreading]
    exact hpasses
  have hruns := deep_without_room session rfl hoffers
  exact ⟨⟨_, rfl⟩, by decide +kernel, hchecked, ⟨.noRoom, hruns.2.1, rfl⟩, hruns.2.2⟩

end AddonUpkeep.KubeProxy
