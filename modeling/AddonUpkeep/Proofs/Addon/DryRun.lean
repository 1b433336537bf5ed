import AddonUpkeep.Proofs.Addon.InStep
import AddonUpkeep.Proofs.Addon.Nesting
import AddonUpkeep.Proofs.Addon.MemoryRun
import AddonUpkeep.Proofs.Cluster.Recorded

/-!
# A dry run tells what a real run does

A dry run and a real run on the same session assess the same DaemonSet.  They end in the same way
when there is nothing to write; otherwise the real run writes once and ends as the writing does,
unless the host has no room for the copies that come first.
-/

namespace AddonUpkeep

namespace KubeProxy

variable {σ : Type}

/-- The documents that an update tells the client to write, in order. -/
def sends (proxy : KubeProxy) (cluster : Cluster σ) (version : String) (dryRun : Bool)
    (session : Session σ) : List Json :=
  ((proxy.apply cluster.recorded version dryRun).runOn session.recording).2.cluster.sent

/-- Recording what is written changes nothing else about an update. -/
theorem apply_of_recorded (proxy : KubeProxy) (cluster : Cluster σ) (version : String)
    (dryRun : Bool) (session : Session (Recorded σ)) :
    (proxy.apply cluster version dryRun).runOn session.forgetting =
      (((proxy.apply cluster.recorded version dryRun).runOn session).1,
        ((proxy.apply cluster.recorded version dryRun).runOn session).2.forgetting) := by
  obtain ⟨houtcome, hafter⟩ := inStep_apply alongside_forgets (fun _ _ _ _ _ _ ↦ trivial)
    cluster.inStep_recorded proxy version dryRun session session.forgetting rfl
  exact Prod.ext houtcome.symm hafter.symm

/-- An update in earnest sends what it proposes, if the host can make it, and a dry run sends
nothing. -/
theorem sends_eq {proxy : KubeProxy} {cluster : Cluster σ} {session : Session σ}
    {read : Except Fault Json × Session σ}
    (hread : (cluster.fetch proxy.name proxy.scope).runOn session = read) (version : String)
    (dryRun : Bool) :
    proxy.sends cluster version dryRun session =
      match proxy.proposal read.2.host version read.1 with
      | .error _ | .ok none => []
      | .ok (some updated) =>
        if dryRun || (hindrance read.2.host version read.1).isSome then [] else [updated] := by
  subst hread
  set read := (cluster.fetch proxy.name proxy.scope).runOn session
  obtain ⟨found, sent, hrun⟩ := runOn_apply proxy cluster.recorded version dryRun session.recording
  have hsends : proxy.sends cluster version dryRun session = _ := congrArg (·.2.cluster.sent) hrun
  have hreading : ((cluster.recorded.fetch proxy.name proxy.scope).runOn session.recording).1 =
      read.1 := rfl
  have hhost : ((cluster.recorded.fetch proxy.name proxy.scope).runOn session.recording).2.host =
      read.2.host := rfl
  rw [hsends, hreading, hhost]
  cases proxy.proposal read.2.host version read.1 with
  | error fault => rfl
  | ok proposed =>
    cases proposed with
    | none => rfl
    | some updated =>
      cases dryRun with
      | true => rfl
      | false =>
        cases hindrance read.2.host version read.1 with
        | some fault => rfl
        | none =>
          simp only [carriesOut, Bool.false_eq_true, if_false, Bool.or_false, Option.isSome_none]
          rw [Cluster.runOn_recorded_replace]
          generalize ((cluster.replace updated).runOn _).1 = answer
          cases answer with
          | error fault => rfl
          | ok answer => rfl

/-- A dry run and a real run on one session both end before anything is written, in the same way,
or the real run makes the pending change with exactly one writing, or it has no room for that. -/
theorem dryRun_beside_run (proxy : KubeProxy) (cluster : Cluster σ) (version : String)
    (session : Session σ) :
    let read := (cluster.fetch proxy.name proxy.scope).runOn session
    let plan := (proxy.apply cluster version true).runOn session
    let real := (proxy.apply cluster version false).runOn session
    let writing (document : Json) (log : Log) :=
      (cluster.replace document).runOn { plan.2 with log }
    proxy.sends cluster version true session = [] ∧ plan.2.cluster = read.2.cluster ∧
    ((plan.1 = .ok .noChangeNeeded ∧ real.1 = .ok .noChangeNeeded ∧
        proxy.sends cluster version false session = [] ∧ real.2.cluster = plan.2.cluster) ∨
      (∃ fault, plan.1 = .error fault ∧ real.1 = .error fault ∧
        proxy.sends cluster version false session = [] ∧ real.2.cluster = plan.2.cluster) ∨
      (plan.1 = .ok .changePending ∧ match hindrance read.2.host version read.1 with
        | none => ∃ document log,
          proxy.sends cluster version false session = [document] ∧
          real.1 = (writing document log).1.map (fun _ ↦ Outcome.applied) ∧
          real.2.cluster = (writing document log).2.cluster
        | some fault => fault = .noRoom ∧
          (∃ daemonSet, read.1 = .ok daemonSet ∧ read.2.host.room < daemonSet.copyCalls + 1) ∧
          real.1 = .error fault ∧ proxy.sends cluster version false session = [] ∧
          real.2.cluster = plan.2.cluster)) := by
  intro read plan real writing
  obtain ⟨planned, _, hplan⟩ := runOn_apply proxy cluster version true session
  obtain ⟨found, sent, hreal⟩ := runOn_apply proxy cluster version false session
  change plan = _ at hplan
  change real = _ at hreal
  have hread : (cluster.fetch proxy.name proxy.scope).runOn session = read := rfl
  have hsends := sends_eq hread version false
  have hnone := sends_eq hread version true
  rw [hread] at hplan hreal
  clear_value read
  cases hproposal : proxy.proposal read.2.host version read.1 with
  | error fault =>
    rw [hproposal] at hplan hreal hsends hnone
    rw [hplan, hreal, hsends, hnone]
    exact ⟨rfl, rfl, .inr (.inl ⟨fault, rfl, rfl, rfl, rfl⟩)⟩
  | ok proposed =>
    rw [hproposal] at hplan hreal hsends hnone
    cases proposed with
    | none =>
      rw [hplan, hreal, hsends, hnone]
      exact ⟨rfl, rfl, .inl ⟨rfl, rfl, rfl, rfl⟩⟩
    | some updated =>
      cases hhinders : hindrance read.2.host version read.1 with
      | some fault =>
        rw [hhinders] at hreal hsends
        rw [hplan, hreal, hsends, hnone]
        obtain ⟨hfault, hroom⟩ := hindrance_eq_some hhinders
        exact ⟨rfl, rfl, .inr (.inr ⟨rfl, hfault, hroom, rfl, rfl, rfl⟩)⟩
      | none =>
        rw [hhinders] at hreal hsends
        -- the real run goes on from where the dry run ends, but for what it has logged
        have hwriting : writing updated (read.2.noting found).log =
            (cluster.replace updated).runOn (read.2.noting found) := by
          change (cluster.replace updated).runOn { plan.2 with log := _ } = _
          rw [hplan]
          rfl
        rw [hplan, hreal, hsends, hnone]
        refine ⟨rfl, rfl, .inr (.inr ⟨rfl, updated, (read.2.noting found).log, rfl, ?_⟩)⟩
        rw [hwriting]
        unfold carriesOut
        simp only [Bool.false_eq_true, if_false]
        rcases (cluster.replace updated).runOn (read.2.noting found) with ⟨answer, last⟩
        cases answer with
        | error fault => exact ⟨rfl, rfl⟩
        | ok document => exact ⟨rfl, rfl⟩

/-- A change that the host has no room for is pending, and stays unmade. -/
theorem apply_without_room {proxy : KubeProxy} {cluster : Cluster σ} {version : String}
    {session : Session σ} {read : Except Fault Json × Session σ} {updated : Json}
    (hread : (cluster.fetch proxy.name proxy.scope).runOn session = read)
    (hproposal : proxy.proposal read.2.host version read.1 = .ok (some updated))
    (hhinders : (hindrance read.2.host version read.1).isSome) :
    ((proxy.apply cluster version true).runOn session).1 = .ok .changePending ∧
      ((proxy.apply cluster version false).runOn session).1 = .error .noRoom ∧
      proxy.sends cluster version false session = [] := by
  subst hread
  obtain ⟨fault, hfault⟩ := Option.isSome_iff_exists.mp hhinders
  obtain ⟨_, _, hplan⟩ := runOn_apply proxy cluster version true session
  obtain ⟨-, -, hcases⟩ := dryRun_beside_run proxy cluster version session
  rw [hproposal] at hplan
  have hpending := congrArg Prod.fst hplan
  rw [hfault] at hcases
  obtain ⟨hnone, -⟩ | ⟨_, hfails, -⟩ | ⟨-, rfl, -, hreal, hsends, -⟩ := hcases
  · cases hnone.symm.trans hpending
  · cases hfails.symm.trans hpending
  · exact ⟨hpending, hreal, hsends⟩

/-- So it is with a DaemonSet that the next reply to the command offers. -/
theorem offered_without_room (access : Kubectl.Access) {name scope : String} {imageBuild : Setting}
    {version : String} (session : Session Kubectl.Transcript) {daemonSet updated : Json}
    (hoffers : session.cluster.Offers daemonSet)
    (hproposal : proposal ⟨.str name, .str scope, imageBuild⟩ session.host version (.ok daemonSet) =
      .ok (some updated))
    (hhinders : (hindrance session.host version (.ok daemonSet)).isSome) :
    let proxy : KubeProxy := ⟨.str name, .str scope, imageBuild⟩
    let cluster := Kubectl.cluster access
    ((proxy.apply cluster version true).runOn session).1 = .ok .changePending ∧
      ((proxy.apply cluster version false).runOn session).1 = .error .noRoom ∧
      proxy.sends cluster version false session = [] := by
  intro proxy cluster
  let read := (Kubectl.fetch access (.str name) (.str scope)).runOn session
  have hreading : read.1 = .ok daemonSet := fetch_of_offers hoffers
  have hhost : read.2.host = session.host := Kubectl.host_runOn_fetch access _ _ session
  have hread : (cluster.fetch proxy.name proxy.scope).runOn session = read := rfl
  rw [← hhost, ← hreading] at hproposal hhinders
  exact apply_without_room hread hproposal hhinders

/-- So it is with a DaemonSet that holds five hundred nested arrays. -/
theorem deep_without_room (session : Session Kubectl.Transcript) (hhost : session.host = .usual)
    (hoffers : session.cluster.Offers (workloadWithin "registry:v1.17" 500)) :
    let proxy : KubeProxy := ⟨.str "kube-proxy", .str "kube-system", .str "eksbuild.1"⟩
    let cluster := Kubectl.cluster {}
    ((proxy.apply cluster "1.20" true).runOn session).1 = .ok .changePending ∧
      ((proxy.apply cluster "1.20" false).runOn session).1 = .error .noRoom ∧
      proxy.sends cluster "1.20" false session = [] := by
  intro proxy cluster
  have hpending : (proxy.proposal .usual "1.20"
      (.ok (workloadWithin "registry:v1.17" 500))).toOption.join.isSome := by decide +kernel
  have hhinders : (hindrance .usual "1.20" (.ok (workloadWithin "registry:v1.17" 500))).isSome := by
    decide +kernel
  obtain ⟨updated, hupdated⟩ := Option.isSome_iff_exists.mp hpending
  have hproposal := toOption_eq_some_iff.mp (Option.join_eq_some_iff.mp hupdated)
  rw [← hhost] at hproposal hhinders
  exact offered_without_room {} session hoffers hproposal hhinders

/-- A dry run predicts the real run on every client, from every state of it: both find nothing to
change, both end with one fault before anything is written, or the dry run reports the change that
the real run makes with exactly one writing, whose fault is the only one that is left.  The dry run
itself writes nothing, and a cluster in memory only remembers what it read.  There is one exception:
the DaemonSet is copied behind the point where a dry run ends, and one that is nested too deeply for
the room of the host, twice as many calls as layers, ends the real run before anything is written.
A cluster in memory never comes to that, since it gives copies that took more room. -/
theorem dryRun_predicts_run (proxy : KubeProxy) (cluster : Cluster σ) (version : String)
    (session : Session σ) :
    let read := (cluster.fetch proxy.name proxy.scope).runOn session
    let plan := (proxy.apply cluster version true).runOn session
    let real := (proxy.apply cluster version false).runOn session
    let writing (document : Json) (log : Log) :=
      (cluster.replace document).runOn { plan.2 with log }
    proxy.sends cluster version true session = [] ∧ plan.2.cluster = read.2.cluster ∧
    ((plan.1 = .ok .noChangeNeeded ∧ real.1 = .ok .noChangeNeeded ∧
        proxy.sends cluster version false session = [] ∧ real.2.cluster = plan.2.cluster) ∨
      (∃ fault, plan.1 = .error fault ∧ real.1 = .error fault ∧
        proxy.sends cluster version false session = [] ∧ real.2.cluster = plan.2.cluster) ∨
      (plan.1 = .ok .changePending ∧ match hindrance read.2.host version read.1 with
        | none => ∃ document log,
          proxy.sends cluster version false session = [document] ∧
          real.1 = (writing document log).1.map (fun _ ↦ Outcome.applied) ∧
          real.2.cluster = (writing document log).2.cluster
        | some fault => fault = .noRoom ∧
          (∃ daemonSet, read.1 = .ok daemonSet ∧ read.2.host.room < daemonSet.copyCalls + 1) ∧
          real.1 = .error fault ∧ proxy.sends cluster version false session = [] ∧
          real.2.cluster = plan.2.cluster)) ∧
    ∀ (memory : Memory) (log : Log) (host : Host),
      let read := (Memory.cluster.fetch proxy.name proxy.scope).runOn ⟨memory, log, host⟩
      hindrance read.2.host version read.1 = none ∧
      proxy.sends Memory.cluster version true ⟨memory, log, host⟩ = [] ∧
      ((proxy.apply Memory.cluster version true).runOn ⟨memory, log, host⟩).2.cluster =
        { memory with reads := memory.reads ++ [(proxy.name, proxy.scope)] } := by
  intro read plan real writing
  obtain ⟨hsends, hcluster, hcases⟩ := dryRun_beside_run proxy cluster version session
  refine ⟨hsends, hcluster, hcases, fun memory log host ↦ ⟨?_, ?_⟩⟩
  · rw [show Memory.cluster.fetch = Memory.fetch from rfl, Memory.runOn_fetch]
    exact hindrance_of_reading version
  obtain ⟨hsends, hcluster, -⟩ :=
    dryRun_beside_run proxy Memory.cluster version ⟨memory, log, host⟩
  refine ⟨hsends, hcluster.trans ?_⟩
  exact Memory.cluster_runOn_fetch proxy.name proxy.scope ⟨memory, log, host⟩

/-- The change of a DaemonSet with five hundred nested arrays is pending, but the host cannot copy
the DaemonSet: the real run fails, and nothing is written. -/
theorem dryRun_predicts_not_deep :
    let proxy : KubeProxy := ⟨.str "kube-proxy", .str "kube-system", .str "eksbuild.1"⟩
    let cluster := Kubectl.cluster {}
    let session : Session Kubectl.Transcript :=
      { cluster := offering (workloadWithin "registry:v1.17" 500) }
    let plan := (proxy.apply cluster "1.20" true).runOn session
    let real := (proxy.apply cluster "1.20" false).runOn session
    plan.1 = .ok .changePending ∧ (∃ fault, real.1 = .error fault ∧ fault.kind = .depth) ∧
      proxy.sends cluster "1.20" false session = [] := by
  intro proxy cluster session
  have hoffers : session.cluster.Offers (workloadWithin "registry:v1.17" 500) :=
    offers_workloadWithin "registry:v1.17" (by decide)
  have hruns := deep_without_room session rfl hoffers
  exact ⟨hruns.1, ⟨.noRoom, hruns.2.1, rfl⟩, hruns.2.2⟩

end KubeProxy

end AddonUpkeep
