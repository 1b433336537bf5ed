import AddonUpkeep.Proofs.Addon.Absence
import AddonUpkeep.Proofs.Addon.DryRun
import AddonUpkeep.Proofs.Cluster.Replacing
import AddonUpkeep.Proofs.Cluster.Watched

/-!
# When an update counts as applied

An update through the command counts as applied when the run that replaces the DaemonSet ends with
exit code zero and an object.  Absence, which is as good as success when the DaemonSet is read, is a
fault when it is replaced.  A DaemonSet that was read can be sent, since the host must have had the
room to copy it.
-/

namespace AddonUpkeep

open AddonUpkeep.Kubectl

namespace Kubectl

/-- The end of a run says that the DaemonSet was replaced. -/
def Replaced (result : Except Interruption Finished) : Prop :=
  ∃ finished fields, result = .ok finished ∧ finished.code = 0 ∧
    Json.parse finished.output = .ok (.obj fields)

/-- The end of a run is the answer of the server that the DaemonSet was changed in between. -/
def TellsConflict (result : Except Interruption Finished) : Prop :=
  ∃ finished, result = .ok finished ∧ finished.code ≠ 0 ∧
    ("Conflict".toList <:+: finished.complaint.toList ∨
      "the object has been modified".toList <:+: finished.complaint.toList)

variable {name scope : String} {finished : Finished} {result : Except Interruption Finished}

theorem isConflict_iff {output : String} : isConflict output = true ↔
    "Conflict".toList <:+: output.toList ∨
      "the object has been modified".toList <:+: output.toList := by
  rw [isConflict, Bool.or_eq_true, Text.holds_iff, Text.holds_iff]

theorem readObject_eq_ok_iff {output : String} {document : Json} :
    readObject output = .ok document ↔
      Json.parse output = .ok document ∧ ∃ fields, document = .obj fields := by
  constructor
  · exact readObject_eq_ok
  · rintro ⟨hparse, fields, rfl⟩
    rw [readObject, hparse]

/-- What the reply to a replacement gives is a document when it says that there was one. -/
theorem exists_replaced_iff (name scope : String) (timeout : Int)
    (result : Except Interruption Finished) :
    (∃ document, (result.mapError (Interruption.fault timeout)).bind
      (Finished.replaced name scope) = .ok document) ↔ Replaced result := by
  unfold Replaced
  cases result with
  | error interruption => simp [Except.mapError, Except.bind]
  | ok finished =>
    change (∃ document, finished.replaced name scope = .ok document) ↔ _
    simp only [replaced_eq_ok_iff, readObject_eq_ok_iff, Except.ok.injEq]
    constructor
    · rintro ⟨_, hcode, hparse, fields, rfl⟩
      exact ⟨finished, fields, rfl, hcode, hparse⟩
    · rintro ⟨_, fields, rfl, hcode, hparse⟩
      exact ⟨_, hcode, hparse, fields, rfl⟩

/-- Which fault a complaint about a replacement is: a conflict if it tells one, else the absence of
the DaemonSet if it tells that, else a failed command. -/
theorem kind_of_refusal (name scope : String) (hresult : result = .ok finished)
    (hcode : finished.code ≠ 0) :
    ((refusal name scope finished.complaint).kind = .conflict ↔ TellsConflict result) ∧
    ((refusal name scope finished.complaint).kind = .missingResource ↔
      ¬ TellsConflict result ∧ TellsAbsence name result) ∧
    ((refusal name scope finished.complaint).kind = .command ↔
      ¬ TellsConflict result ∧ ¬ TellsAbsence name result) := by
  have hconflict : TellsConflict result ↔ isConflict finished.complaint = true := by
    simp [TellsConflict, hresult, hcode, isConflict_iff]
  have habsence : TellsAbsence name result ↔ isMissing finished.complaint name = true := by
    simp [TellsAbsence, hresult, hcode, isMissing_iff]
  rw [hconflict, habsence, refusal]
  split
  · next h => simp [h, Fault.kind]
  · next h =>
    split
    · next h' => simp [h, h', Fault.kind]
    · next h' => simp [h, h', Fault.kind]

end Kubectl

namespace KubeProxy

/-- A renewal of a DaemonSet that was offered can be sent, if the host has the room to make it. -/
theorem sendFault?_of_assess {proxy : KubeProxy} {host : Host} {version : String}
    {transcript : Transcript} {daemonSet updated : Json} (hoffers : transcript.Offers daemonSet)
    (hassess : proxy.assess host version daemonSet = .ok (some updated))
    (hhinders : hindrance host version (.ok daemonSet) = none) :
    host.sendFault? updated = none := by
  obtain ⟨_, _, -, hparse, -⟩ := hoffers
  obtain ⟨-, -, _, _, _, hlabel, hallowed, -, -⟩ := assess_eq_ok hassess
  obtain ⟨label, _, _, allowed, hrenewal⟩ := renewal_of_assess hassess
  rw [hindrance_eq hlabel hallowed] at hhinders
  have hcopies := copies_of_renewal (by split <;> omega)
    (hrenewal.alike.mono (fun _ _ h ↦ ⟨_, h.2⟩) fun _ _ ↦ id) hhinders
  exact Host.sendFault?_eq_none (hrenewal.readable (Json.readable_of_parse hparse)) hcopies

/-- What an update finds pending is sent, and the reply to the sending tells how the update ends,
unless the host has no room to make the document.  Then nothing is run behind the reading. -/
theorem apply_of_pending_object {access : Access} {name scope version : String}
    {imageBuild : Setting} {session : Session Transcript} {daemonSet : Json}
    {own ownScope : String} (hoffers : session.cluster.Offers daemonSet)
    (htells : Tells daemonSet own ownScope)
    (hpending : ((apply ⟨.str name, .str scope, imageBuild⟩ (Kubectl.cluster access) version
      true).runOn session).1 = .ok .changePending) :
    let real := (apply ⟨.str name, .str scope, imageBuild⟩ (Kubectl.cluster access) version
      false).runOn session
    let read := session.cluster.ran (fetchCall access name scope)
    match hindrance session.host version (.ok daemonSet) with
    | none => ∃ sent,
      real.1 = (((read.nextResult (some sent.line)).mapError
          (Interruption.fault (max access.timeout 60))).bind
            (Finished.replaced own ownScope)).map (fun _ ↦ Outcome.applied) ∧
        real.2.cluster = read.ran (replaceCall access ownScope sent)
    | some fault => real.1 = .error fault ∧ real.2.cluster = read := by
  intro real read
  let proxy : KubeProxy := ⟨.str name, .str scope, imageBuild⟩
  have hreading : ((fetch access (.str name) (.str scope)).runOn session).1 = .ok daemonSet :=
    fetch_of_offers hoffers
  have hcluster := cluster_fetch access name scope session
  have hhost := host_runOn_fetch access (.str name) (.str scope) session
  obtain ⟨found, _, hplan⟩ := runOn_apply proxy (Kubectl.cluster access) version true session
  obtain ⟨found', noted, hreal⟩ := runOn_apply proxy (Kubectl.cluster access) version false session
  change real = _ at hreal
  rcases hfetched : (fetch access (.str name) (.str scope)).runOn session with ⟨reading, after⟩
  rw [hfetched] at hreading hcluster hhost
  obtain rfl : reading = .ok daemonSet := hreading
  rw [show ((Kubectl.cluster access).fetch proxy.name proxy.scope).runOn session =
    (.ok daemonSet, after) from hfetched, proposal_ok] at hplan hreal
  dsimp only at hplan hreal
  rw [hhost] at hplan hreal
  rw [hplan] at hpending
  cases hassess : proxy.assess session.host version daemonSet with
  | error fault =>
    rw [hassess] at hpending
    cases hpending
  | ok assessment =>
    cases assessment with
    | none =>
      rw [hassess] at hpending
      cases hpending
    | some updated =>
      rw [hassess] at hreal
      cases hhinders : hindrance session.host version (.ok daemonSet) with
      | some fault =>
        rw [hhinders] at hreal
        rw [hreal]
        exact ⟨rfl, hcluster⟩
      | none =>
        obtain ⟨label, repository, tag, allowed, hrenewal⟩ := renewal_of_assess hassess
        have hupdated : Tells updated own ownScope := by
          obtain ⟨metadata, hmetadata, hnames⟩ := htells
          exact ⟨metadata, hrenewal.metadata_eq.trans hmetadata, hnames⟩
        have hsend : (after.noting found').host.sendFault? updated = none := by
          rw [Session.host_noting, hhost]
          exact sendFault?_of_assess hoffers hassess hhinders
        obtain ⟨houtcome, hafter⟩ :
            ((replace access updated).runOn (after.noting found')).1 = _ ∧
              ((replace access updated).runOn (after.noting found')).2.cluster = _ :=
          runOn_replace hupdated hsend
        rw [Session.cluster_noting, hcluster] at houtcome hafter
        simp only [hhinders, carriesOut, Bool.false_eq_true, if_false] at hreal
        refine ⟨updated, ?_⟩
        rw [hreal, ← houtcome, ← hafter,
          show (Kubectl.cluster access).replace = replace access from rfl]
        rcases (replace access updated).runOn (after.noting found') with ⟨answer, last⟩
        cases answer with
        | error fault => exact ⟨rfl, rfl⟩
        | ok answer => exact ⟨rfl, rfl⟩

/-- On a cluster that ignores the log, a run ends with the message of the update, and leaves the
cluster as the update does. -/
theorem runOn_run_of_ignoresLog {σ : Type} {cluster : Cluster σ} (hlog : cluster.IgnoresLog)
    (proxy : KubeProxy) (version : String) (dryRun : Bool) (session : Session σ) :
    let applied := (proxy.apply cluster version dryRun).runOn session
    let ran := ((proxy.addon cluster).run version dryRun).runOn session
    ran.1 = ⟨addonName, applied.1.mapError Fault.message⟩ ∧ ran.2.cluster = applied.2.cluster := by
  intro applied ran
  obtain ⟨before, behind, hrun⟩ := (proxy.addon cluster).runOn_run version dryRun session
  obtain ⟨houtcome, hcluster⟩ := inStep_apply alongside_sameCluster (fun _ _ _ _ _ _ ↦ trivial)
    hlog proxy version dryRun (session.noting before) session ⟨rfl, rfl⟩
  change ran = _ at hrun
  rw [hrun]
  exact ⟨congrArg (fun outcome : Except Fault Outcome ↦
    (⟨addonName, outcome.mapError Fault.message⟩ : Result Outcome)) houtcome, hcluster.1⟩

/-- An update through the command that finds a change pending is applied exactly when the run that
replaces the DaemonSet ends with exit code zero and an object.  Every other reply is a fault, of the
update and in the result of a run: behind an exit code that is not zero, a conflict when the
complaint tells one, else the absence of the DaemonSet when the server answers that, else a failed
command.  Whatever the reply is, the file that was sent is gone.  A DaemonSet that the host has no
room to copy is not sent: then the update fails behind the reading, and leaves no file either. -/
theorem applied_iff_replaced (access : Access) (name scope version : String)
    (imageBuild : Setting) (session : Session Transcript) {daemonSet : Json}
    {own ownScope : String} (hoffers : session.cluster.Offers daemonSet)
    (htells : Tells daemonSet own ownScope)
    (hpending : ((apply ⟨.str name, .str scope, imageBuild⟩ (Kubectl.cluster access) version
      true).runOn session).1 = .ok .changePending) :
    let proxy : KubeProxy := ⟨.str name, .str scope, imageBuild⟩
    let real := (proxy.apply (Kubectl.cluster access) version false).runOn session
    let ran := ((proxy.addon (Kubectl.cluster access)).run version false).runOn session
    let read := session.cluster.ran (fetchCall access name scope)
    ran.2.cluster = real.2.cluster ∧ real.2.cluster.files = session.cluster.files ∧
    match hindrance session.host version (.ok daemonSet) with
    | none => ∃ sent, let result := read.nextResult (some sent.line)
      real.2.cluster = read.ran (replaceCall access ownScope sent) ∧
      (real.1 = .ok .applied ↔ Replaced result) ∧ (ran.1.isSuccess = true ↔ Replaced result) ∧
      (¬ Replaced result → ∃ fault, real.1 = .error fault ∧ ran.1.value = .error fault.message ∧
        ∀ finished, result = .ok finished → finished.code ≠ 0 →
          (fault.kind = .conflict ↔ TellsConflict result) ∧
          (fault.kind = .missingResource ↔ ¬ TellsConflict result ∧ TellsAbsence own result) ∧
          (fault.kind = .command ↔ ¬ TellsConflict result ∧ ¬ TellsAbsence own result))
    | some fault => fault = .noRoom ∧ session.host.room < daemonSet.copyCalls + 1 ∧
      real.2.cluster = read ∧ real.1 = .error fault ∧ ran.1.value = .error fault.message := by
  intro proxy real ran read
  have happlied := apply_of_pending_object hoffers htells hpending
  obtain ⟨hran, hafter⟩ :=
    runOn_run_of_ignoresLog (Kubectl.ignoresLog access) proxy version false session
  change ran.1 = ⟨addonName, real.1.mapError Fault.message⟩ at hran
  rw [hran]
  refine ⟨hafter, ?_⟩
  cases hhinders : hindrance session.host version (.ok daemonSet) with
  | some fault =>
    rw [hhinders] at happlied
    obtain ⟨houtcome, hcluster⟩ := happlied
    obtain ⟨hfault, _, hreading, hroom⟩ := hindrance_eq_some hhinders
    cases hreading
    change real.1 = _ at houtcome
    rw [houtcome]
    exact ⟨(congrArg Transcript.files hcluster :), hfault, hroom, hcluster, rfl, rfl⟩
  | none =>
    rw [hhinders] at happlied
    obtain ⟨sent, houtcome, hcluster⟩ := happlied
    change real.1 = _ at houtcome
    refine ⟨(congrArg Transcript.files hcluster :), sent, hcluster, ?_⟩
    have hreplaced := exists_replaced_iff own ownScope (max access.timeout 60)
      (read.nextResult (some sent.line))
    rw [houtcome]
    cases hanswer : ((read.nextResult (some sent.line)).mapError
        (Interruption.fault (max access.timeout 60))).bind (Finished.replaced own ownScope) with
    | ok document =>
      have hwas := hreplaced.mp ⟨document, hanswer⟩
      exact ⟨⟨fun _ ↦ hwas, fun _ ↦ rfl⟩, ⟨fun _ ↦ hwas, fun _ ↦ rfl⟩,
        fun hnot ↦ absurd hwas hnot⟩
    | error fault =>
      have hnot : ¬ Replaced (read.nextResult (some sent.line)) := by
        rw [← hreplaced, hanswer]
        rintro ⟨_, ⟨⟩⟩
      refine ⟨⟨nofun, fun h ↦ absurd h hnot⟩, ⟨nofun, fun h ↦ absurd h hnot⟩,
        fun _ ↦ ⟨fault, rfl, rfl, fun finished hresult hcode ↦ ?_⟩⟩
      have hfault : fault = refusal own ownScope finished.complaint := by
        rw [hresult] at hanswer
        change finished.replaced own ownScope = .error fault at hanswer
        rw [Finished.replaced, if_pos hcode] at hanswer
        exact (Except.error.inj hanswer).symm
      rw [hfault]
      exact kind_of_refusal own ownScope hresult hcode

/-- A complaint that tells a conflict and, besides, that the server has no such DaemonSet is a
conflict.  The absence is not taken for success, and the file is gone. -/
theorem applied_not_on_conflict :
    let daemonSet := Json.obj [
      ("metadata", .obj [("name", .str "kube-proxy"), ("namespace", .str "kube-system")]),
      ("spec", .obj [("template", .obj [("spec", .obj
        [("containers", .arr [.obj [("image", .str "registry:v1.17")]])])])])]
    let complaint := "Conflict. Error from server (NotFound): daemonsets.apps \"kube-proxy\""
    let proxy : KubeProxy := ⟨.str "kube-proxy", .str "kube-system", .str "eksbuild.1"⟩
    let session : Session Transcript := { cluster :=
      { replies := [.finished 0 (.text daemonSet.line) "", .finished 1 (.text "") complaint] } }
    let real := (proxy.apply (Kubectl.cluster {}) "1.20" false).runOn session
    session.cluster.Offers daemonSet ∧ Tells daemonSet "kube-proxy" "kube-system" ∧
      ((proxy.apply (Kubectl.cluster {}) "1.20" true).runOn session).1 = .ok .changePending ∧
      ∃ fault, real.1 = .error fault ∧ fault.kind = .conflict ∧ real.2.cluster.files = [] := by
  intro daemonSet complaint proxy session real
  have hparse : Json.parse daemonSet.line = .ok daemonSet :=
    toOption_eq_some_iff.mp (by decide +kernel)
  have hoffers : session.cluster.Offers daemonSet :=
    ⟨daemonSet.line, "", rfl, hparse, _, rfl⟩
  have htells : Tells daemonSet "kube-proxy" "kube-system" := ⟨_, rfl, rfl, rfl⟩
  have hpending : ((proxy.apply (Kubectl.cluster {}) "1.20" true).runOn session).1 =
      .ok .changePending := toOption_eq_some_iff.mp (by decide +kernel)
  have happlied := applied_iff_replaced {} "kube-proxy" "kube-system" "1.20" (.str "eksbuild.1")
    session hoffers htells hpending
  have hhinders : hindrance session.host "1.20" (.ok daemonSet) = none :=
    Option.isNone_iff_eq_none.mp (by decide +kernel)
  rw [hhinders] at happlied
  obtain ⟨-, hfiles, sent, -, -, -, hfault⟩ := happlied
  have hreply : (session.cluster.ran (fetchCall {} "kube-proxy" "kube-system")).nextResult
      (some sent.line) = .ok ⟨1, "", complaint⟩ := rfl
  have hconflict : TellsConflict (.ok ⟨1, "", complaint⟩) :=
    ⟨_, rfl, by decide, isConflict_iff.mp (by decide +kernel)⟩
  have hnot : ¬ Replaced (.ok ⟨1, "", complaint⟩) := by
    rintro ⟨finished, fields, hfinished, hcode, -⟩
    cases hfinished
    cases hcode
  rw [hreply] at hfault
  obtain ⟨fault, hreal, -, hkinds⟩ := hfault hnot
  have hkind : fault.kind = .conflict := (hkinds _ rfl (by decide)).1.mpr hconflict
  refine ⟨hoffers, htells, hpending, fault, hreal, hkind, ?_⟩
  rw [hfiles]

/-- A replacement of a DaemonSet with five hundred nested arrays would be answered with exit code
zero and an object, but it is never asked for: the host cannot copy the DaemonSet. -/
theorem applied_not_deep :
    let daemonSet := workloadWithin "registry:v1.17" 500
    let proxy : KubeProxy := ⟨.str "kube-proxy", .str "kube-system", .str "eksbuild.1"⟩
    let session : Session Transcript := { cluster :=
      { replies := [.finished 0 (.text daemonSet.line) "", .finished 0 (.text "\x7b\x7d") ""] } }
    let read := session.cluster.ran (fetchCall {} "kube-proxy" "kube-system")
    session.cluster.Offers daemonSet ∧ Tells daemonSet "kube-proxy" "kube-system" ∧
      ((proxy.apply (Kubectl.cluster {}) "1.20" true).runOn session).1 = .ok .changePending ∧
      (∀ body, Replaced (read.nextResult body)) ∧
      ∃ fault, ((proxy.apply (Kubectl.cluster {}) "1.20" false).runOn session).1 = .error fault ∧
        fault.kind = .depth := by
  intro daemonSet proxy session read
  have hparse : Json.parse daemonSet.line = .ok daemonSet :=
    Json.parse_line (readable_workloadWithin "registry:v1.17" (by decide))
  have hoffers : session.cluster.Offers daemonSet := ⟨_, "", rfl, hparse, _, rfl⟩
  have hreplaced (body : Option String) : Replaced (read.nextResult body) :=
    ⟨⟨0, "\x7b\x7d", ""⟩, [], rfl, rfl, toOption_eq_some_iff.mp (by decide +kernel)⟩
  obtain ⟨hplan, hreal, -⟩ := deep_without_room session rfl hoffers
  exact ⟨hoffers, ⟨_, rfl, rfl, rfl⟩, hplan, hreplaced, .noRoom, hreal, rfl⟩

end KubeProxy

end AddonUpkeep
