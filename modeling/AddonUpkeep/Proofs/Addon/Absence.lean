import AddonUpkeep.Proofs.Addon.Sending
import AddonUpkeep.Proofs.Text.Pieces

/-!
# When a DaemonSet counts as absent

A cluster without the DaemonSet has nothing to keep, so an absent DaemonSet counts as up to date.
Through the command, only the answer of the server counts as absence: a run that cannot be made,
that fails in another way, or whose output cannot be read is a fault, and never taken for it.
-/

namespace AddonUpkeep

open AddonUpkeep.Kubectl AddonUpkeep.Workload

namespace Kubectl

/-- The end of a run is the answer of the server that it has no DaemonSet of the name. -/
def TellsAbsence (name : String) (result : Except Interruption Finished) : Prop :=
  ∃ finished, result = .ok finished ∧ finished.code ≠ 0 ∧
    "Error from server (NotFound)".toList <:+: finished.complaint.toList ∧
    ("daemonsets.apps \"" ++ name ++ "\"").toList <:+: finished.complaint.toList

variable {name scope : String} {finished : Finished}

theorem isMissing_iff {output : String} : isMissing output name = true ↔
    "Error from server (NotFound)".toList <:+: output.toList ∧
      ("daemonsets.apps \"" ++ name ++ "\"").toList <:+: output.toList := by
  rw [isMissing, Bool.and_eq_true, Text.holds_iff, Text.holds_iff]
  rfl

/-- The faults of an output that cannot be read do not tell that the DaemonSet is absent. -/
theorem kind_of_readObject {output : String} {fault : Fault}
    (h : readObject output = .error fault) : fault.kind ≠ .missingResource := by
  unfold readObject at h
  split at h
  · cases h
  · cases h
    decide
  · cases h
    next refusal _ =>
    cases refusal with
    | malformed problem place => simp [refusalFault, Fault.kind]
    | longInteger digits => simp [refusalFault, Fault.kind]
    | tooDeep inObject => cases inObject <;> simp [refusalFault, Fault.kind]

/-- A finished reading tells that the DaemonSet is absent only by the answer of the server. -/
theorem kind_of_fetched_iff {fault : Fault} (h : finished.fetched name scope = .error fault) :
    fault.kind = .missingResource ↔
      finished.code ≠ 0 ∧ isMissing finished.complaint name = true := by
  unfold Finished.fetched at h
  split at h
  · next hcode =>
    split at h
    · next hmissing =>
      cases h
      exact ⟨fun _ ↦ ⟨hcode, hmissing⟩, fun _ ↦ rfl⟩
    · next hother =>
      cases h
      refine ⟨fun hkind ↦ ?_, fun hboth ↦ absurd hboth.2 hother⟩
      cases hkind
  · next hcode =>
    exact ⟨fun hkind ↦ absurd hkind (kind_of_readObject h), fun ⟨hfailed, _⟩ ↦ absurd hfailed hcode⟩

/-- What is fetched is the object in the output of a run that ended well. -/
theorem fetched_eq_ok_iff {document : Json} :
    finished.fetched name scope = .ok document ↔
      finished.code = 0 ∧ Json.parse finished.output = .ok document ∧
        ∃ fields, document = .obj fields := by
  unfold Finished.fetched
  constructor
  · intro h
    split at h
    · split at h
      · cases h
      · cases h
    · next hcode => exact ⟨not_not.mp hcode, readObject_eq_ok h⟩
  · rintro ⟨hcode, hparse, fields, rfl⟩
    rw [if_neg (not_not.mpr hcode), readObject, hparse]

end Kubectl

namespace Workload

/-- The first image has exactly one colon, and the tag behind it. -/
def HasTag (daemonSet : Json) (tag : String) : Prop :=
  ∃ repository, HasImage daemonSet (repository ++ ":" ++ tag) ∧
    (repository ++ ":" ++ tag).toList.count ':' = 1

end Workload

namespace KubeProxy

variable {name scope version : String} {proxy : KubeProxy} {daemonSet : Json}
  {result : Except Interruption Finished} {timeout : Int}

/-- The first image has the tag that is expected for the version. -/
def RunsExpected (proxy : KubeProxy) (version : String) (daemonSet : Json) : Prop :=
  ∃ tag, proxy.expectedTag version = .ok tag ∧ HasTag daemonSet tag

/-- A DaemonSet passes when its image has the tag for the version. -/
theorem passes_some_iff :
    proxy.passes version (some daemonSet) = .ok true ↔ proxy.RunsExpected version daemonSet := by
  unfold RunsExpected passes
  cases hexpected : proxy.expectedTag version with
  | error fault =>
    refine iff_of_false (fun h ↦ ?_) (fun h ↦ ?_)
    · cases h
    · obtain ⟨tag, htag, -⟩ := h
      cases htag
  | ok expected =>
    dsimp only
    rw [ok_bind]
    constructor
    · intro h
      obtain ⟨image, himage, h⟩ := bind_eq_ok_iff.mp h
      have htag : image.tag = expected := beq_iff_eq.mp (Except.ok.inj h)
      obtain ⟨hheld, hparts⟩ := currentImage_eq_ok himage
      rw [← htag]
      exact ⟨_, rfl, image.repository, hheld, Image.count_reference_iff.mpr hparts⟩
    · rintro ⟨tag, htag, repository, hheld, hcount⟩
      obtain rfl := Except.ok.inj htag
      let image : Image := ⟨repository, expected⟩
      obtain ⟨hrepository, htag⟩ : ':' ∉ image.repository.toList ∧ ':' ∉ image.tag.toList :=
        Image.count_reference_iff.mp hcount
      have himage : proxy.currentImage daemonSet = .ok image :=
        currentImage_of_hasImage hheld hrepository htag
      rw [himage, ok_bind, beq_self_eq_true]
      rfl

/-- A DaemonSet is absent by the answer of the server only. -/
theorem ifPresent_eq_none_iff (hname : proxy.name.hasText = true) :
    proxy.ifPresent
        ((result.mapError (Interruption.fault timeout)).bind (Finished.fetched name scope)) =
      .ok none ↔ TellsAbsence name result := by
  unfold ifPresent TellsAbsence
  rw [Setting.checkText_eq_ok_iff.mpr hname]
  cases result with
  | error interruption =>
    cases interruption with
    | timedOut => simp [Except.mapError, Except.bind, Interruption.fault, Fault.kind]
    | missing => simp [Except.mapError, Except.bind, Interruption.fault, Fault.kind]
    | refused problem =>
      cases problem <;>
        simp [Except.mapError, Except.bind, Interruption.fault, StartProblem.fault, Fault.kind]
  | ok finished =>
    simp only [Except.mapError, Except.bind, Except.ok.injEq, exists_eq_left', ← isMissing_iff]
    cases hfetched : finished.fetched name scope with
    | ok document => simp [(fetched_eq_ok_iff.mp hfetched).1]
    | error fault => simp [← kind_of_fetched_iff hfetched, Except.map]

/-- A DaemonSet is there when the reply offers it. -/
theorem ifPresent_eq_some_iff_offers {transcript : Transcript} :
    proxy.ifPresent (((transcript.nextResult none).mapError (Interruption.fault timeout)).bind
      (Finished.fetched name scope)) = .ok (some daemonSet) ↔ transcript.Offers daemonSet := by
  rw [ifPresent_eq_some_iff]
  unfold Transcript.Offers
  cases transcript.nextResult none with
  | error interruption => simp [Except.mapError, Except.bind]
  | ok finished =>
    obtain ⟨code, output, errors⟩ := finished
    simp only [Except.mapError, Except.bind, fetched_eq_ok_iff, Except.ok.injEq, Finished.mk.injEq]
    constructor
    · rintro ⟨rfl, hread⟩
      exact ⟨output, errors, ⟨rfl, rfl, rfl⟩, hread⟩
    · rintro ⟨_, _, ⟨rfl, rfl, rfl⟩, hread⟩
      exact ⟨rfl, hread⟩

/-- What an update that finds nothing to change has found. -/
theorem assess_eq_none {host : Host} {daemonSet : Json}
    (h : proxy.assess host version daemonSet = .ok none) :
    proxy.RunsExpected version daemonSet ∧ ∃ label expressions,
      archLabelFor version = .ok label ∧ Affinity.matchExpressions daemonSet = .ok expressions ∧
      ∃ expression ∈ expressions, Affinity.allows label Affinity.arm64 expression = .ok true := by
  obtain ⟨hshows, -, label, allowed, image, hlabel, hallowed, himage, hcases⟩ := assess_eq_ok h
  rcases hcases with ⟨-, htag, hopen⟩ | ⟨updated, hsome, -⟩
  · obtain ⟨expressions, hread, hfound⟩ := Affinity.hasValue_iff hallowed
    refine ⟨?_, label, expressions, hlabel, hread, hfound.mp hopen⟩
    rw [← passes_some_iff, passes, expectedTag_eq_ok_iff.mpr ⟨hshows.imageBuild, rfl⟩, ok_bind,
      himage]
    exact congrArg Except.ok (beq_iff_eq.mpr htag)
  · cases hsome

/-- Through the command, a DaemonSet counts as up to date when the server answers that it has none
of the name, or when the object that is read has the tag for the version behind the only colon of
its first image.  An update finds nothing to change in the first case only, or when moreover some
expression on the label of the version lists arm64.  So no other end of the run, and no run without
an end, is ever taken for absence. -/
theorem upToDate_iff_answered (access : Access) (name scope : String) (imageBuild : Setting)
    (version : String) (dryRun : Bool) (session : Session Transcript) :
    let proxy : KubeProxy := ⟨.str name, .str scope, imageBuild⟩
    let cluster := Kubectl.cluster access
    let absent := TellsAbsence name (session.cluster.nextResult none)
    (((proxy.isUpToDate cluster version).runOn session).1 = .ok true ↔
      absent ∨ ∃ daemonSet, session.cluster.Offers daemonSet ∧
        proxy.RunsExpected version daemonSet) ∧
    (((proxy.apply cluster version dryRun).runOn session).1 = .ok .noChangeNeeded →
      absent ∨ ∃ daemonSet label expressions, session.cluster.Offers daemonSet ∧
        proxy.RunsExpected version daemonSet ∧ archLabelFor version = .ok label ∧
        Affinity.matchExpressions daemonSet = .ok expressions ∧ ∃ expression ∈ expressions,
          Affinity.allows label Affinity.arm64 expression = .ok true) := by
  intro proxy cluster absent
  have hreading := proxy.outcome_daemonSet? cluster session
  have hfetch : ((cluster.fetch proxy.name proxy.scope).runOn session).1 = _ :=
    outcome_fetch access name scope session
  rw [hfetch] at hreading
  have habsent : ((proxy.daemonSet? cluster).runOn session).1 = .ok none ↔ absent := by
    rw [hreading]
    exact ifPresent_eq_none_iff rfl
  have hoffers (daemonSet : Json) :
      ((proxy.daemonSet? cluster).runOn session).1 = .ok (some daemonSet) ↔
        session.cluster.Offers daemonSet := by
    rw [hreading]
    exact ifPresent_eq_some_iff_offers
  rw [runOn_isUpToDate]
  simp only [← habsent, ← hoffers, ← passes_some_iff]
  rcases hread : (proxy.daemonSet? cluster).runOn session with ⟨reading, after⟩
  cases reading with
  | error fault =>
    rw [apply_of_fault version dryRun hread]
    simp [Except.bind]
  | ok present =>
    cases present with
    | none => simp [Except.bind, passes]
    | some daemonSet =>
      refine ⟨by simp [Except.bind], fun h ↦ ?_⟩
      obtain ⟨log, ⟨hassess, -⟩ | ⟨updated, -, hchanges⟩⟩ := assess_of_apply hread (Prod.ext h rfl)
      · obtain ⟨hpasses, label, expressions, hfound⟩ := assess_eq_none hassess
        exact .inr ⟨daemonSet, label, expressions, rfl, passes_some_iff.mpr hpasses, hfound⟩
      · rcases hchanges with ⟨-, hpending, -⟩ | ⟨-, happlied, -⟩
        · cases hpending
        · cases happlied

end KubeProxy

end AddonUpkeep
