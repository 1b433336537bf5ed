import AddonUpkeep.Proofs.Addon.DryRun
import AddonUpkeep.Proofs.Addon.Target
import AddonUpkeep.Proofs.Version.Prefix

/-!
# What letters in front of a version change

A version is used twice: it is read, for the architecture label, and its text stands in the image
tag.  Reading drops letters `v` in front of the version and blanks around it.  The tag keeps them,
so two texts of one version come to the same exactly as far as the tag is not looked at.
-/

namespace AddonUpkeep

namespace KubeProxy

open AddonUpkeep.Affinity AddonUpkeep.Json AddonUpkeep.Text AddonUpkeep.Workload

variable {σ : Type} {proxy : KubeProxy} {cluster : Cluster σ} {session : Session σ}
  {version other label : String} {daemonSet : Json} {allowed : Bool} {image : Image}

theorem tagFor_eq_iff : proxy.tagFor version = proxy.tagFor other ↔ version = other := by
  refine ⟨fun h ↦ ?_, congrArg proxy.tagFor⟩
  have hlist := congrArg String.toList h
  apply String.toList_injective
  simpa [tagFor, toString] using hlist

/-- A tag tells two others apart unless it is neither of them. -/
theorem beq_eq_beq_iff {tag first second : String} :
    (tag == first) = (tag == second) ↔ first = second ∨ tag ≠ first ∧ tag ≠ second := by
  rw [Bool.eq_iff_iff, beq_iff_eq, beq_iff_eq]
  constructor
  · intro hsame
    by_cases hfirst : tag = first
    · exact .inl (hfirst.symm.trans (hsame.mp hfirst))
    · exact .inr ⟨hfirst, fun hsecond ↦ hfirst (hsame.mpr hsecond)⟩
  · rintro (rfl | ⟨hfirst, hsecond⟩)
    · exact Iff.rfl
    · exact iff_of_false hfirst hsecond

theorem archLabelFor_of_parse (h : Version.parse version = Version.parse other) :
    archLabelFor version = archLabelFor other := by
  unfold archLabelFor Version.isAtLeast
  rw [h]

section Unread

theorem expectedTag_eq_error (h : proxy.imageBuild.hasText = false) (version : String) :
    proxy.expectedTag version = .error (.value .longText) := by
  rw [expectedTag, Setting.checkText, h]
  rfl

/-- An assessment that does not get to an image or to a tag only needs the label of the version. -/
theorem assess_of_unread (host : Host) (hlabel : archLabelFor version = archLabelFor other)
    (hunread : proxy.imageBuild.hasText = false ∨
      ∃ fault, proxy.currentImage daemonSet = .error fault) :
    proxy.assess host version daemonSet = proxy.assess host other daemonSet := by
  unfold assess
  rw [hlabel]
  refine bind_congr fun label ↦ bind_congr fun allowed ↦ bind_congr fun _ ↦ bind_congr fun _ ↦
    bind_congr fun _ ↦ ?_
  rcases hunread with hbuild | ⟨fault, himage⟩
  · refine bind_congr fun image ↦ ?_
    rw [expectedTag_eq_error hbuild, expectedTag_eq_error hbuild]
  · rw [himage, error_bind, error_bind]

/-- Nothing that was read has an image, or the build has no text that could stand in a tag. -/
def Unread (proxy : KubeProxy) (reading : Except Fault Json) : Prop :=
  proxy.imageBuild.hasText = true →
    ∀ daemonSet image, reading = .ok daemonSet → proxy.currentImage daemonSet ≠ .ok image

variable {reading : Except Fault Json}

theorem Unread.cases_of_ok (h : Unread proxy (.ok daemonSet)) :
    proxy.imageBuild.hasText = false ∨ ∃ fault, proxy.currentImage daemonSet = .error fault := by
  cases hbuild : proxy.imageBuild.hasText with
  | false => exact .inl rfl
  | true =>
    cases himage : proxy.currentImage daemonSet with
    | error fault => exact .inr ⟨fault, rfl⟩
    | ok image => exact absurd himage (h hbuild daemonSet image rfl)

theorem proposal_error (proxy : KubeProxy) (host : Host) (version : String) (fault : Fault) :
    proxy.proposal host version (.error fault) =
      if fault.kind = .missingResource then proxy.name.checkText.map fun _ ↦ none
      else .error fault := by
  unfold proposal ifPresent
  dsimp only
  split
  · rcases proxy.name.checkText_cases with hname | hname <;> rw [hname] <;> rfl
  · rfl

theorem Unread.proposal_eq (h : Unread proxy reading) (host : Host)
    (hlabel : archLabelFor version = archLabelFor other) :
    proxy.proposal host version reading = proxy.proposal host other reading := by
  cases reading with
  | error fault => rw [proposal_error, proposal_error]
  | ok daemonSet =>
    rw [proposal_ok, proposal_ok]
    exact assess_of_unread host hlabel h.cases_of_ok

theorem Unread.proposal_ne (h : Unread proxy reading) (host : Host) (updated : Json) :
    proxy.proposal host version reading ≠ .ok (some updated) := by
  intro hproposal
  obtain ⟨daemonSet, hreading, hassess⟩ := proposal_eq_some_iff.mp hproposal
  obtain ⟨hshows, -, label, allowed, image, -, -, himage, -⟩ := assess_eq_ok hassess
  exact h hshows.imageBuild daemonSet image hreading himage

theorem Unread.passes_eq (h : Unread proxy reading) :
    (proxy.ifPresent reading).bind (proxy.passes version) =
      (proxy.ifPresent reading).bind (proxy.passes other) := by
  cases reading with
  | error fault =>
    unfold ifPresent
    dsimp only
    split
    · rcases proxy.name.checkText_cases with hname | hname <;> rw [hname] <;> rfl
    · rfl
  | ok daemonSet =>
    change proxy.passes version (some daemonSet) = proxy.passes other (some daemonSet)
    unfold passes
    dsimp only
    rcases h.cases_of_ok with hbuild | ⟨fault, himage⟩
    · rw [expectedTag_eq_error hbuild, expectedTag_eq_error hbuild]
    · unfold expectedTag
      rw [himage]
      rcases proxy.imageBuild.checkText_cases with hbuild | hbuild <;> rw [hbuild] <;> rfl

end Unread

variable {read : Except Fault Json × Session σ}

/-- An update that proposes no document only reads. -/
theorem apply_of_no_proposal (hread : (cluster.fetch proxy.name proxy.scope).runOn session = read)
    (h : ∀ updated, proxy.proposal read.2.host version read.1 ≠ .ok (some updated))
    (dryRun : Bool) :
    let update := (proxy.apply cluster version dryRun).runOn session
    update.1 = (proxy.proposal read.2.host version read.1).map (fun _ ↦ .noChangeNeeded) ∧
      update.2.cluster = read.2.cluster ∧ proxy.sends cluster version dryRun session = [] := by
  intro update
  obtain ⟨found, sent, hrun⟩ := runOn_apply proxy cluster version dryRun session
  rw [hread] at hrun
  change update = _ at hrun
  rw [hrun, sends_eq hread]
  cases hproposal : proxy.proposal read.2.host version read.1 with
  | error fault => exact ⟨rfl, rfl, rfl⟩
  | ok proposed =>
    cases proposed with
    | none => exact ⟨rfl, rfl, rfl⟩
    | some updated => exact absurd hproposal (h updated)

/-- An update whose assessment fails ends with the fault, and sends nothing. -/
theorem apply_of_assess_error {fault : Fault}
    (hread : (cluster.fetch proxy.name proxy.scope).runOn session = read)
    (hfound : read.1 = .ok daemonSet)
    (hassess : proxy.assess read.2.host version daemonSet = .error fault) :
    proxy.sends cluster version false session = [] ∧
      ∀ dryRun, ((proxy.apply cluster version dryRun).runOn session).1 = .error fault := by
  have hproposal : proxy.proposal read.2.host version read.1 = .error fault := by
    rw [hfound, proposal_ok, hassess]
  have hnone : ∀ updated, proxy.proposal read.2.host version read.1 ≠ .ok (some updated) := by
    rw [hproposal]
    simp
  refine ⟨(apply_of_no_proposal hread hnone false).2.2, fun dryRun ↦ ?_⟩
  rw [(apply_of_no_proposal hread hnone dryRun).1, hproposal]
  rfl

/-- What an update for a version does once the image and the search for arm64 were read.  When both
are as they should be, it does nothing.  Otherwise a dry run reports the change; an update in
earnest sends a document and ends as the sending does, unless something hinders it from making the
document. -/
structure Carries (proxy : KubeProxy) (cluster : Cluster σ) (session : Session σ) (image : Image)
    (allowed : Bool) (hinders : Option Fault) (version : String) (sent : Json) : Prop where
  settled : image.tag = proxy.tagFor version ∧ allowed = true →
    proxy.sends cluster version false session = [] ∧
      ∀ dryRun, ((proxy.apply cluster version dryRun).runOn session).1 = .ok .noChangeNeeded
  pending : ¬ (image.tag = proxy.tagFor version ∧ allowed = true) →
    ((proxy.apply cluster version true).runOn session).1 = .ok .changePending ∧
      let read := (cluster.fetch proxy.name proxy.scope).runOn session
      let real := (proxy.apply cluster version false).runOn session
      match hinders with
      | none => proxy.sends cluster version false session = [sent] ∧ ∃ log,
        let writing := (cluster.replace sent).runOn (read.2.noting log)
        real.1 = writing.1.map (fun _ ↦ .applied) ∧ real.2.cluster = writing.2.cluster
      | some fault => proxy.sends cluster version false session = [] ∧
        real.1 = .error fault ∧ real.2.cluster = read.2.cluster

theorem carries_of_assess {sent : Json}
    (hread : (cluster.fetch proxy.name proxy.scope).runOn session = read)
    (hfound : read.1 = .ok daemonSet)
    (hassess : proxy.assess read.2.host version daemonSet =
      .ok (if image.tag = proxy.tagFor version ∧ allowed = true then none else some sent)) :
    Carries proxy cluster session image allowed (hindrance read.2.host version read.1) version
      sent where
  settled hsame := by
    rw [if_pos hsame] at hassess
    have hproposal : proxy.proposal read.2.host version read.1 = .ok none := by
      rw [hfound, proposal_ok, hassess]
    have hnone : ∀ updated, proxy.proposal read.2.host version read.1 ≠ .ok (some updated) := by
      rw [hproposal]
      simp
    refine ⟨(apply_of_no_proposal hread hnone false).2.2, fun dryRun ↦ ?_⟩
    rw [(apply_of_no_proposal hread hnone dryRun).1, hproposal]
    rfl
  pending hdiffers := by
    rw [if_neg hdiffers] at hassess
    have hproposal : proxy.proposal read.2.host version read.1 = .ok (some sent) := by
      rw [hfound, proposal_ok, hassess]
    obtain ⟨_, _, hplan⟩ := runOn_apply proxy cluster version true session
    obtain ⟨found, _, hreal⟩ := runOn_apply proxy cluster version false session
    rw [hread, hproposal] at hplan hreal
    rw [hplan, hreal, sends_eq hread, hproposal, hread]
    refine ⟨rfl, ?_⟩
    cases hindrance read.2.host version read.1 with
    | some fault => exact ⟨rfl, rfl, rfl⟩
    | none =>
      refine ⟨rfl, found, ?_⟩
      simp only [carriesOut, Bool.false_eq_true, if_false]
      generalize (cluster.replace sent).runOn _ = writing
      rcases writing with ⟨answer, last⟩
      cases answer with
      | error fault => exact ⟨rfl, rfl⟩
      | ok answer => exact ⟨rfl, rfl⟩

/-- Documents that differ in the tag only come from each other by writing the image. -/
theorem setImage_of_alike {tag tag' : String} {sent sent' : Json}
    (hfound : HasImage daemonSet image.reference)
    (hsent : Alike (Retagged image tag) (Opens label allowed) daemonSet sent)
    (hsent' : Alike (Retagged image tag') (Opens label allowed) daemonSet sent') :
    setImage sent { image with tag := tag' } = .ok sent' := by
  obtain ⟨changed, hset, hpath⟩ :=
    setImage_of_hasImage { image with tag := tag' } (Alike.hasImage hsent hfound)
  have hexpressions : Alike (fun old new ↦ old = .str { image with tag }.reference ∧
      new = .str { image with tag := tag' }.reference) Eq sent changed :=
    InPath.mono hpath fun _ pod hpod ↦
      ⟨pod, hpod, InPath.refl (InItems.refl (InField.refl (InItems.refl fun _ ↦ rfl))) termsPath pod⟩
  have hchanged : Alike (Retagged image tag') (Opens label allowed) daemonSet changed :=
    Alike.comp hsent hexpressions (fun _ _ _ hab hbc ↦ ⟨hab.1, hbc.2⟩) fun _ _ _ hab hbc ↦ hbc ▸ hab
  have hunique : Relator.RightUnique (Alike (Retagged image tag') (Opens label allowed)) :=
    rightUnique_alike (fun _ _ _ h h' ↦ h.2.trans h'.2.symm) rightUnique_opens
  rw [hset, hunique hchanged hsent']

/-- A DaemonSet has one image in its first container. -/
theorem hasImage_unique {reference reference' : String} (h : HasImage daemonSet reference)
    (h' : HasImage daemonSet reference') : reference = reference' := by
  obtain ⟨pod, container, containers, hpod, hlisted, himage⟩ := h
  obtain ⟨pod', container', containers', hpod', hlisted', himage'⟩ := h'
  obtain rfl : pod = pod' := Except.ok.inj (hpod.symm.trans hpod')
  cases Option.some.inj (hlisted.symm.trans hlisted')
  exact Json.str.inj (Option.some.inj (himage.symm.trans himage'))

theorem reference_eq_iff {tag tag' : String} :
    ({ image with tag } : Image).reference = ({ image with tag := tag' } : Image).reference ↔
      tag = tag' := by
  refine ⟨fun h ↦ ?_, fun h ↦ by rw [h]⟩
  have hlist := congrArg String.toList h
  rw [Image.toList_reference, Image.toList_reference] at hlist
  exact String.toList_injective (List.cons.inj (List.append_cancel_left hlist)).2

/-- Once an image is read and the build has a text, an assessment for a version with the label fails
whatever the version is, or has read what it needs. -/
theorem fails_or_reads (host : Host) (label : String) (hbuild : proxy.imageBuild.hasText = true)
    (himage : proxy.currentImage daemonSet = .ok image) :
    (∃ fault, ∀ text, archLabelFor text = .ok label →
        proxy.assess host text daemonSet = .error fault) ∨
      ∃ allowed, Reads proxy host label daemonSet allowed image := by
  obtain ⟨reference, hreference, -⟩ := bind_eq_ok_iff.mp himage
  obtain ⟨containers, hcontainers, -⟩ := bind_eq_ok_iff.mp hreference
  cases hallowed : hasValue daemonSet label arm64 with
  | error problem =>
    refine .inl ⟨.shape problem, fun text htext ↦ ?_⟩
    unfold assess
    rw [mapError_eq_ok_iff.mpr htext, ok_bind, hallowed]
    rfl
  | ok allowed =>
    rcases proxy.name.checkText_cases with hname | hname
    · cases hnotes : host.noteFault? daemonSet with
      | some fault =>
        refine .inl ⟨fault, fun text htext ↦ ?_⟩
        unfold assess
        rw [mapError_eq_ok_iff.mpr htext, ok_bind, mapError_eq_ok_iff.mpr hallowed, ok_bind,
          hcontainers, ok_bind, hname, ok_bind, hnotes]
        rfl
      | none =>
        have hshows : proxy.Shows := ⟨Setting.checkText_eq_ok_iff.mp hname, hbuild⟩
        exact .inr ⟨allowed, hshows, hnotes, hallowed, himage⟩
    · refine .inl ⟨.value .longText, fun text htext ↦ ?_⟩
      unfold assess
      rw [mapError_eq_ok_iff.mpr htext, ok_bind, mapError_eq_ok_iff.mpr hallowed, ok_bind,
        hcontainers, ok_bind, hname]
      rfl

/-- For two versions with one label, an update reads the same of a DaemonSet.  It ends with one
fault, or what it may send for the one is what it may send for the other with another tag. -/
theorem carries_of_label (hlabel : archLabelFor version = .ok label)
    (hother : archLabelFor other = .ok label) (hbuild : proxy.imageBuild.hasText = true)
    (hread : (cluster.fetch proxy.name proxy.scope).runOn session = read)
    (hfound : read.1 = .ok daemonSet) (himage : proxy.currentImage daemonSet = .ok image) :
    let hinders := hindrance read.2.host version read.1
    (∃ fault, ∀ text ∈ [other, version], proxy.sends cluster text false session = [] ∧
        ∀ dryRun, ((proxy.apply cluster text dryRun).runOn session).1 = .error fault) ∨
      ∃ allowed sent sent',
        setImage sent { image with tag := proxy.tagFor other } = .ok sent' ∧
        (sent' = sent ↔ other = version) ∧
        Carries proxy cluster session image allowed hinders version sent ∧
        Carries proxy cluster session image allowed hinders other sent' := by
  intro hinders
  rcases fails_or_reads read.2.host label hbuild himage with ⟨fault, hfails⟩ | ⟨allowed, hreads⟩
  · refine .inl ⟨fault, fun text htext ↦ apply_of_assess_error hread hfound (hfails text ?_)⟩
    rcases List.mem_cons.mp htext with rfl | hlast
    · exact hother
    · rw [List.mem_singleton.mp hlast, hlabel]
  · obtain ⟨sent, hsent, hassess⟩ := hreads.assess_eq hlabel
    obtain ⟨sent', hsent', hassess'⟩ := hreads.assess_eq hother
    obtain ⟨himageHeld, -, -⟩ := currentImage_eq_ok himage
    have hsame : hindrance read.2.host other read.1 = hinders := by
      dsimp only [hinders]
      rw [hfound, hindrance_eq hother hreads.hasValue_eq, hindrance_eq hlabel hreads.hasValue_eq]
    have hcarries' := carries_of_assess hread hfound hassess'
    rw [hsame] at hcarries'
    refine .inr ⟨allowed, sent, sent', setImage_of_alike himageHeld hsent hsent',
      ⟨fun hequal ↦ ?_, ?_⟩, carries_of_assess hread hfound hassess, hcarries'⟩
    · have hnew := Alike.hasImage hsent' himageHeld
      rw [hequal] at hnew
      have htags := hasImage_unique hnew (Alike.hasImage hsent himageHeld)
      exact tagFor_eq_iff.mp (reference_eq_iff.mp htags)
    · rintro rfl
      exact rightUnique_alike (fun _ _ _ h h' ↦ h.2.trans h'.2.symm) rightUnique_opens hsent' hsent

/-- Letters `v` in front of a version and blanks around it show in the tag, and nowhere else.  What
is read of the version is the same, and so is what a check and an update come to as long as they get
to no image, or have no text for the build.  Where an image is read, the check compares it with the
tag that has the letters, so it answers alike exactly when the image has neither tag; and what the
update sends has that tag. -/
theorem prefix_shows_in_tag (proxy : KubeProxy) (cluster : Cluster σ) (session : Session σ)
    (version spelled : String) (found : Version) (hversion : Version.parse version = .ok found)
    (hspelled : Version.Prefixed version spelled) :
    let bare := trim version
    let read := (cluster.fetch proxy.name proxy.scope).runOn session
    let check (text : String) := (proxy.isUpToDate cluster text).runOn session
    let update (text : String) (dryRun : Bool) := (proxy.apply cluster text dryRun).runOn session
    let sends (text : String) := proxy.sends cluster text false session
    let hinders := hindrance read.2.host bare read.1
    let tag := proxy.tagFor
    Version.parse spelled = Version.parse bare ∧ archLabelFor spelled = archLabelFor bare ∧
    (tag spelled = tag bare ↔ spelled = bare) ∧ (check spelled).2 = (check bare).2 ∧
    (Unread proxy read.1 → (check spelled).1 = (check bare).1 ∧
      sends spelled = [] ∧ sends bare = [] ∧ ∀ dryRun,
        (update spelled dryRun).1 = (update bare dryRun).1 ∧
        (update spelled dryRun).2.cluster = (update bare dryRun).2.cluster) ∧
    ∀ daemonSet image, proxy.imageBuild.hasText = true → read.1 = .ok daemonSet →
      proxy.currentImage daemonSet = .ok image →
      ((check spelled).1 = (check bare).1 ↔
        spelled = bare ∨ image.tag ≠ tag spelled ∧ image.tag ≠ tag bare) ∧
      ((∃ fault, ∀ text ∈ [spelled, bare],
          sends text = [] ∧ ∀ dryRun, (update text dryRun).1 = .error fault) ∨
        ∃ allowed sent sent', setImage sent { image with tag := tag spelled } = .ok sent' ∧
          (sent' = sent ↔ spelled = bare) ∧
          Carries proxy cluster session image allowed hinders bare sent ∧
          Carries proxy cluster session image allowed hinders spelled sent') := by
  intro bare read check update sends hinders tag
  have hbare : Version.parse bare = .ok found :=
    Version.parse_of_prefixed hversion (Version.prefixed_trim version)
  have hparse : Version.parse spelled = Version.parse bare :=
    (Version.parse_of_prefixed hversion hspelled).trans hbare.symm
  have hlabel : archLabelFor spelled = archLabelFor bare := archLabelFor_of_parse hparse
  have hread : (cluster.fetch proxy.name proxy.scope).runOn session = read := rfl
  refine ⟨hparse, hlabel, tagFor_eq_iff, ?_, fun hunread ↦ ?_, fun daemonSet image hbuild hfound
    himage ↦ ⟨?_, ?_⟩⟩
  · dsimp only [check]
    rw [runOn_isUpToDate, runOn_isUpToDate]
  · have hnone (text : String) :=
      @apply_of_no_proposal σ proxy cluster session text read hread (hunread.proposal_ne _)
    refine ⟨?_, (hnone spelled false).2.2, (hnone bare false).2.2, fun dryRun ↦ ⟨?_, ?_⟩⟩
    · dsimp only [check]
      rw [outcome_isUpToDate, outcome_isUpToDate, hread, hunread.passes_eq]
    · dsimp only [update]
      rw [(hnone spelled dryRun).1, (hnone bare dryRun).1, hunread.proposal_eq _ hlabel]
    · exact (hnone spelled dryRun).2.1.trans (hnone bare dryRun).2.1.symm
  · have hchecked (text : String) : (check text).1 = .ok (image.tag == tag text) := by
      dsimp only [check]
      rw [outcome_isUpToDate, hread, ifPresent_eq_some_iff.mpr hfound]
      change proxy.passes text (some daemonSet) = _
      rw [passes, expectedTag_eq_ok_iff.mpr ⟨hbuild, rfl⟩, ok_bind, himage]
      rfl
    have htags : tag spelled = tag bare ↔ spelled = bare := tagFor_eq_iff
    rw [hchecked, hchecked, Except.ok.injEq, beq_eq_beq_iff, htags]
  · have hsome : ∃ label, archLabelFor bare = .ok label := by
      unfold archLabelFor Version.isAtLeast
      rw [hbare]
      exact ⟨_, rfl⟩
    obtain ⟨label, hsome⟩ := hsome
    exact carries_of_label hsome (hlabel.trans hsome) hbuild hread hfound himage

/-- A DaemonSet with arm64 allowed, and with an image that runs the tag. -/
def workloadRunning (tag : String) : Json :=
  let expression := Json.obj [("key", .str archLabel), ("operator", .str "In"),
    ("values", .arr [.str "amd64", .str "arm64"])]
  let affinity := Json.obj [("nodeAffinity", .obj [("requiredDuringSchedulingIgnoredDuringExecution",
    .obj [("nodeSelectorTerms", .arr [.obj [("matchExpressions", .arr [expression])]])])])]
  .obj [("metadata", .obj [("name", .str "kube-proxy"), ("namespace", .str "kube-system")]),
    ("spec", .obj [("template", .obj [("spec", .obj [("affinity", affinity),
      ("containers", .arr [.obj [("image", .str s!"registry:{tag}")]])])])])]

/-- An image with the tag of neither text: both checks fail it, and both updates change it. -/
theorem prefix_shows_in_tag_behind :
    let proxy := KubeProxy.ofSettings []
    let session : Session Memory := { cluster := Memory.ofList [workloadRunning "v1.26-eksbuild.1"] }
    let sends (text : String) := proxy.sends Memory.cluster text false session
    (∃ found, Version.parse "1.27" = .ok found) ∧ Version.Prefixed "1.27" " vv1.27\n" ∧
      archLabelFor " vv1.27\n" = archLabelFor "1.27" ∧
      ((proxy.isUpToDate Memory.cluster " vv1.27\n").runOn session).1 =
        ((proxy.isUpToDate Memory.cluster "1.27").runOn session).1 ∧
      sends "1.27" = [workloadRunning "v1.27-eksbuild.1"] ∧
      sends " vv1.27\n" = [workloadRunning "v vv1.27\n-eksbuild.1"] := by
  intro proxy session sends
  have hspelled : Version.Prefixed "1.27" " vv1.27\n" :=
    ⟨[' '], 2, ['\n'], List.forall_mem_singleton.mpr rfl, List.forall_mem_singleton.mpr rfl,
      by decide +kernel⟩
  have hbare : trim "1.27" = "1.27" := by decide +kernel
  obtain ⟨found, hversion⟩ : ∃ found, Version.parse "1.27" = .ok found := ⟨_, rfl⟩
  have hshows := prefix_shows_in_tag proxy Memory.cluster session _ _ found hversion hspelled
  rw [hbare] at hshows
  obtain ⟨-, hlabel, -, -, -, hread⟩ := hshows
  have himage : proxy.currentImage (workloadRunning "v1.26-eksbuild.1") =
      .ok ⟨"registry", "v1.26-eksbuild.1"⟩ := by
    apply toOption_eq_some_iff.mp
    decide +kernel
  obtain ⟨hcheck, -⟩ := hread _ _ rfl rfl himage
  refine ⟨⟨found, hversion⟩, hspelled, hlabel, hcheck.mpr (.inr ?_), ?_, ?_⟩
  · decide +kernel
  · decide +kernel
  · decide +kernel

/-- With a letter in front, the version of a DaemonSet that is up to date is taken for another one:
the check fails it, and the update writes a tag that has the letter twice. -/
theorem prefix_fails_check :
    let proxy := KubeProxy.ofSettings []
    let session : Session Memory := { cluster := Memory.ofList [workloadRunning "v1.27-eksbuild.1"] }
    let check (text : String) := ((proxy.isUpToDate Memory.cluster text).runOn session).1
    let sends (text : String) := proxy.sends Memory.cluster text false session
    check "1.27" = .ok true ∧ sends "1.27" = [] ∧
      check "v1.27" = .ok false ∧ sends "v1.27" = [workloadRunning "vv1.27-eksbuild.1"] := by
  intro proxy session check sends
  simp only [← toOption_eq_some_iff]
  decide +kernel

end KubeProxy

end AddonUpkeep
