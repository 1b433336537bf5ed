import AddonUpkeep.Proofs.Addon.Assessment
import AddonUpkeep.Proofs.Addon.Completeness
import AddonUpkeep.Proofs.Addon.InStep
import AddonUpkeep.Proofs.Cluster.Clients
import AddonUpkeep.Proofs.Cluster.Watched

/-!
# How an addon is named does not matter

Names are resolved before the client is asked anything, and an addon is handled once however often
it is named.  So what a check or an update does to a client is what the one task of the addon does,
or nothing when no name stands for it.  Names that stand for no addon only show in the log, and the
client does not look there.
-/

namespace AddonUpkeep

variable {σ α : Type}

namespace KubeProxy

variable (proxy : KubeProxy) (cluster : Cluster σ) (version : String) (session : Session σ)

/-- A check asks for the DaemonSet, once. -/
theorem requests_isUpToDate :
    ((proxy.isUpToDate cluster.watched version).runOn session.watching).2.cluster.requests =
      [.fetch proxy.name proxy.scope] := by
  rw [cluster_isUpToDate]
  rfl

/-- An update asks for the DaemonSet, once, and replaces it at most once, and only in earnest. -/
theorem requests_apply (dryRun : Bool) :
    let requests :=
      ((proxy.apply cluster.watched version dryRun).runOn session.watching).2.cluster.requests
    requests = [.fetch proxy.name proxy.scope] ∨ dryRun = false ∧ ∃ document,
      requests = [.fetch proxy.name proxy.scope, .replace document] := by
  intro requests
  obtain ⟨found, sent, hrun⟩ :=
    runOn_apply proxy cluster.watched version dryRun session.watching
  have hrequests : requests = _ := congrArg (·.2.cluster.requests) hrun
  rw [hrequests]
  generalize hread : (cluster.watched.fetch proxy.name proxy.scope).runOn session.watching = read
  have hfetched : read.2.cluster.requests = [.fetch proxy.name proxy.scope] := by
    rw [← hread]
    rfl
  cases proxy.proposal read.2.host version read.1 with
  | error fault => exact .inl hfetched
  | ok proposed =>
    cases proposed with
    | none => exact .inl hfetched
    | some updated =>
      cases dryRun with
      | true => exact .inl hfetched
      | false =>
        have hsent : ((cluster.watched.replace updated).runOn
            (read.2.noting found)).2.cluster.requests =
              [.fetch proxy.name proxy.scope, .replace updated] :=
          congrArg (· ++ [Request.replace updated]) hfetched
        cases hindrance read.2.host version read.1 with
        | some fault => exact .inl hfetched
        | none =>
          refine .inr ⟨rfl, updated, ?_⟩
          rw [← hsent]
          simp only [carriesOut, Bool.false_eq_true, if_false]
          rcases (cluster.watched.replace updated).runOn (read.2.noting found) with ⟨answer, last⟩
          cases answer with
          | error fault => rfl
          | ok answer => rfl

end KubeProxy

namespace Summary

open AddonUpkeep.Catalog

/-- Some of the names stands for kube-proxy. -/
def Named (names : List String) : Prop := ∃ name ∈ names, identify name = .ok .kubeProxy

theorem all_isUnknown_iff (names : List String) : names.all isUnknown = true ↔ ¬ Named names := by
  rw [List.all_eq_true]
  constructor
  · rintro h ⟨name, hname, hidentify⟩
    have hunknown := h name hname
    rw [isUnknown, hidentify] at hunknown
    cases hunknown
  · intro h name hname
    rw [isUnknown]
    cases hidentify : identify name with
    | error fault => rfl
    | ok kind =>
      cases kind
      exact absurd ⟨name, hname, hidentify⟩ h

theorem namedKinds_of_named {names : List String} (h : Named names) :
    namedKinds names = [.kubeProxy] := by
  rw [namedKinds_eq, if_neg]
  rw [all_isUnknown_iff]
  exact not_not.mpr h

theorem namedKinds_of_not_named {names : List String} (h : ¬ Named names) :
    namedKinds names = [] := by
  rw [namedKinds_eq, if_pos ((all_isUnknown_iff names).mpr h)]

/-- The result of a task of kube-proxy. -/
def resultOf (outcome : Except Fault α) : Result α :=
  ⟨AddonKind.kubeProxy.name, outcome.mapError Fault.message⟩

/-- Some work on names comes to a task of kube-proxy, which it runs when the addon is named, and of
which it gives the result.  Otherwise it leaves the client. -/
structure ComesTo (names : List String) (calls : α → Bool) (task : Task σ α)
    (work : Work σ (Summary α)) : Prop where
  named : Named names → ∀ session, ∃ before behind message,
    let ran := task.runOn (session.noting before)
    work.runOn session =
      (ofResults calls names [resultOf ran.1] message, ran.2.noting behind)
  unnamed : ¬ Named names → ∀ session, ∃ log message,
    work.runOn session = (ofResults calls names [] message, session.noting log)

section ComesTo

variable (settings : Table String (Option Settings)) (cluster : Cluster σ) (names : List String)
  (version : String)

theorem check_comesTo :
    ComesTo names (!·) ((kubeProxy settings).isUpToDate cluster version)
      (check settings cluster names version) where
  named hnamed session := by
    obtain ⟨before, message, hcheck⟩ := runOn_check settings cluster names version session
    obtain ⟨behind, hone⟩ :=
      runOn_checkOne settings cluster version (session.noting before) .kubeProxy
    refine ⟨before, behind, message, ?_⟩
    rw [hcheck, checkResults, namedKinds_of_named hnamed, List.mapM_cons, Work.runOn_bind, hone]
    rfl
  unnamed hnone session := by
    obtain ⟨log, message, hcheck⟩ := runOn_check settings cluster names version session
    refine ⟨log, message, ?_⟩
    rw [hcheck, checkResults, namedKinds_of_not_named hnone]
    rfl

theorem update_comesTo (dryRun : Bool) :
    ComesTo names Outcome.isPending ((kubeProxy settings).apply cluster version dryRun)
      (update settings cluster names version dryRun) where
  named hnamed session := by
    obtain ⟨first, message, hupdate⟩ := runOn_update settings cluster names version dryRun session
    obtain ⟨before, behind, hone⟩ :=
      runOn_updateResult settings cluster version dryRun (session.noting first) .kubeProxy
    refine ⟨first ++ before, behind, message, ?_⟩
    rw [Session.noting_noting] at hone
    rw [hupdate, updateResults, namedKinds_of_named hnamed, List.mapM_cons, Work.runOn_bind, hone]
    rfl
  unnamed hnone session := by
    obtain ⟨log, message, hupdate⟩ := runOn_update settings cluster names version dryRun session
    refine ⟨log, message, ?_⟩
    rw [hupdate, updateResults, namedKinds_of_not_named hnone]
    rfl

end ComesTo

theorem get?_ofResults {calls : α → Bool} {names : List String} (message : String)
    (outcome : Except Fault α) (hnamed : Named names) :
    (ofResults calls names [resultOf outcome] message).entries.get? "kube-proxy" =
      some (.known (resultOf outcome)) := by
  have hresults : [resultOf outcome].map Result.addon =
      (namedKinds names).map AddonKind.name := by
    rw [namedKinds_of_named hnamed]
    rfl
  exact (complete_ofResults calls message hresults).known_kept _ List.mem_cons_self

theorem get?_ofResults_nil {calls : α → Bool} {names : List String} (message : String)
    (hnone : ¬ Named names) :
    (ofResults calls names [] message).entries.get? "kube-proxy" = none := by
  have hresults : ([] : List (Result α)).map Result.addon =
      (namedKinds names).map AddonKind.name := by
    rw [namedKinds_of_not_named hnone]
    rfl
  apply Table.get?_of_not_mem
  rw [(complete_ofResults calls message hresults).keys_eq, (all_isUnknown_iff names).mpr hnone,
    if_pos rfl, List.append_nil, List.mem_eraseDups, List.mem_filter]
  rintro ⟨-, hunknown⟩
  rw [show "kube-proxy" = AddonKind.kubeProxy.name from rfl, isUnknown_name] at hunknown
  cases hunknown

/-- The requests that a client gets from some work, the state in which it is left, and the entry of
kube-proxy in the summary. -/
structure Effects (σ α : Type) where
  requests : List Request
  client : σ
  entry : Option (Entry α)

/-- The effects of some work on a watched client. -/
def effects (work : Work (Watched σ) (Summary α)) (session : Session σ) : Effects σ α :=
  let ended := work.runOn session.watching
  ⟨ended.2.cluster.requests, ended.2.cluster.client, ended.1.entries.get? "kube-proxy"⟩

section Effects

variable {names : List String} {calls : α → Bool} {task : Task (Watched σ) α}
  {work : Work (Watched σ) (Summary α)}

/-- When the addon is named, the effects are those of its task, whatever the names are. -/
theorem ComesTo.effects_of_named (h : ComesTo names calls task work)
    (htask : task.InStep Session.SameCluster task) (hnamed : Named names) (session : Session σ) :
    effects work session =
      let ran := task.runOn session.watching
      ⟨ran.2.cluster.requests, ran.2.cluster.client, some (.known (resultOf ran.1))⟩ := by
  obtain ⟨before, behind, message, hwork⟩ := h.named hnamed session.watching
  obtain ⟨houtcome, hcluster, -⟩ :=
    htask (session.watching.noting before) session.watching ⟨rfl, rfl⟩
  unfold effects
  rw [hwork]
  dsimp only
  rw [get?_ofResults message _ hnamed, Session.cluster_noting, houtcome, hcluster]

/-- When the addon is not named, the client is left alone. -/
theorem ComesTo.effects_of_not_named (h : ComesTo names calls task work) (hnone : ¬ Named names)
    (session : Session σ) : effects work session = ⟨[], session.cluster, none⟩ := by
  obtain ⟨log, message, hwork⟩ := h.unnamed hnone session.watching
  unfold effects
  rw [hwork]
  dsimp only
  rw [get?_ofResults_nil message hnone]
  rfl

/-- Work on a watched client leaves the client, and gives the entry, as work on the client alone. -/
theorem ComesTo.effects_eq {taskAlone : Task σ α} {alone : Work σ (Summary α)}
    (h : ComesTo names calls task work) (halone : ComesTo names calls taskAlone alone)
    (hsame : Task.InStep Session.SameClient task taskAlone) (session : Session σ) :
    (effects work session).client = (alone.runOn session).2.cluster ∧
      (effects work session).entry = (alone.runOn session).1.entries.get? "kube-proxy" := by
  unfold effects
  by_cases hnamed : Named names
  · obtain ⟨before, behind, message, hwork⟩ := h.named hnamed session.watching
    obtain ⟨before', behind', message', hwork'⟩ := halone.named hnamed session
    obtain ⟨houtcome, hclient, -⟩ :=
      hsame (session.watching.noting before) (session.noting before') ⟨rfl, rfl⟩
    rw [hwork, hwork']
    dsimp only
    rw [get?_ofResults message _ hnamed, get?_ofResults message' _ hnamed, houtcome]
    exact ⟨hclient, rfl⟩
  · obtain ⟨log, message, hwork⟩ := h.unnamed hnamed session.watching
    obtain ⟨log', message', hwork'⟩ := halone.unnamed hnamed session
    rw [hwork, hwork']
    dsimp only
    rw [get?_ofResults_nil message hnamed, get?_ofResults_nil message' hnamed]
    exact ⟨rfl, rfl⟩

end Effects

open KubeProxy

/-- The effects of a check and of an update do not depend on how the addon is named.  All lists that
name it have the same: one reading, and at most one replacement by an update in earnest.  A list
that does not name it leaves the client alone.  And watching the client is not what makes it so. -/
theorem effects_of_names (settings : Table String (Option Settings)) (cluster : Cluster σ)
    (hlog : cluster.IgnoresLog) (version : String) (dryRun : Bool) (session : Session σ) :
    let checks names := effects (check settings cluster.watched names version) session
    let updates names := effects (update settings cluster.watched names version dryRun) session
    let fetch := Request.fetch (kubeProxy settings).name (kubeProxy settings).scope
    (∀ names other, Named names → Named other →
      checks names = checks other ∧ updates names = updates other) ∧
    (∀ names, Named names → (checks names).requests = [fetch] ∧
      ((updates names).requests = [fetch] ∨ dryRun = false ∧ ∃ document,
        (updates names).requests = [fetch, .replace document])) ∧
    (∀ names, ¬ Named names → checks names = ⟨[], session.cluster, none⟩ ∧
      updates names = ⟨[], session.cluster, none⟩) ∧
    ∀ names,
      let checked := (check settings cluster names version).runOn session
      let updated := (update settings cluster names version dryRun).runOn session
      ((checks names).client = checked.2.cluster ∧
        (checks names).entry = checked.1.entries.get? "kube-proxy") ∧
      (updates names).client = updated.2.cluster ∧
        (updates names).entry = updated.1.entries.get? "kube-proxy" := by
  intro checks updates fetch
  have hcheck names := check_comesTo settings cluster.watched names version
  have hupdate names := update_comesTo settings cluster.watched names version dryRun
  have hchecks (names) (hnamed : Named names) := (hcheck names).effects_of_named
    (inStep_isUpToDate alongside_sameCluster hlog.watched _ version) hnamed session
  have hupdates (names) (hnamed : Named names) := (hupdate names).effects_of_named
    (inStep_apply alongside_sameCluster (fun _ _ _ _ _ _ ↦ trivial) hlog.watched _ version dryRun)
    hnamed session
  refine ⟨fun names other hnamed hother ↦ ?_, fun names hnamed ↦ ?_, fun names hnone ↦ ?_,
    fun names ↦ ?_⟩
  · exact ⟨(hchecks names hnamed).trans (hchecks other hother).symm,
      (hupdates names hnamed).trans (hupdates other hother).symm⟩
  · have hchecked := congrArg Effects.requests (hchecks names hnamed)
    have hupdated := congrArg Effects.requests (hupdates names hnamed)
    change (checks names).requests = _ at hchecked
    change (updates names).requests = _ at hupdated
    rw [hchecked, hupdated]
    exact ⟨requests_isUpToDate _ cluster version session,
      requests_apply _ cluster version session dryRun⟩
  · exact ⟨(hcheck names).effects_of_not_named hnone session,
      (hupdate names).effects_of_not_named hnone session⟩
  · constructor
    · apply (hcheck names).effects_eq (check_comesTo settings cluster names version)
      exact inStep_isUpToDate alongside_sameClient hlog.sameClient _ version
    · apply (hupdate names).effects_eq (update_comesTo settings cluster names version dryRun)
      exact inStep_apply alongside_sameClient (fun _ _ _ _ _ _ ↦ trivial) hlog.sameClient _ version
        dryRun

/-- Both clusters of the library ignore the log.  On the one in memory, two other names and an
unknown one have the effects of the name itself: one reading and one replacement. -/
theorem effects_of_other_names :
    let daemonSet := Json.obj [
      ("metadata", .obj [("name", .str "kube-proxy"), ("namespace", .str "kube-system")]),
      ("spec", .obj [("template", .obj [("spec", .obj
        [("containers", .arr [.obj [("image", .str "registry:v1.17")]])])])])]
    let session : Session Memory := { cluster := Memory.ofList [daemonSet] }
    let updates names :=
      effects (update (ofSettings []) Memory.cluster.watched names "1.20" false) session
    let names := ["coredns", " KubeProxy", "PROXY"]
    (∀ access, (Kubectl.cluster access).IgnoresLog) ∧ Memory.cluster.IgnoresLog ∧
      Named names ∧ Named ["kube-proxy"] ∧ updates names = updates ["kube-proxy"] ∧
      (updates names).requests.length = 2 := by
  have hcanonical : canonicalName "PROXY" = AddonKind.kubeProxy.name := by decide +kernel
  have hother : Named ["coredns", " KubeProxy", "PROXY"] :=
    ⟨"PROXY", by simp, identify_of_canonicalName hcanonical⟩
  have hnamed : Named ["kube-proxy"] := ⟨_, List.mem_cons_self, identify_name .kubeProxy⟩
  refine ⟨Kubectl.ignoresLog, Memory.ignoresLog, hother, hnamed, ?_, by decide +kernel⟩
  have heffects := effects_of_names (ofSettings []) Memory.cluster Memory.ignoresLog "1.20" false
  exact ((heffects _).1 _ _ hother hnamed).2

end Summary

end AddonUpkeep
