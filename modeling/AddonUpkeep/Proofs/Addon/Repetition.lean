import AddonUpkeep.Proofs.Addon.DryRun
import AddonUpkeep.Proofs.Addon.Target

/-!
# Updates one after the other

An update of a memory puts the target of the DaemonSet in its place, or leaves the store.  Targets
do not remember earlier updates, so of several updates the last one decides.  An update that follows
itself finds nothing to change when some expression is on the architecture label; otherwise the
change stays pending for ever, since there is no expression that could be opened.
-/

namespace AddonUpkeep

namespace KubeProxy

open AddonUpkeep.Affinity

variable {proxy : KubeProxy} {host : Host} {version label : String}

theorem place_target (proxy : KubeProxy) (host : Host) (version : String) (daemonSet : Json) :
    Place.ofDaemonSet (proxy.target host version daemonSet) = Place.ofDaemonSet daemonSet := by
  unfold target
  split
  · rfl
  · rfl
  · next updated hassess => exact place_of_assess hassess

/-- The session behind an update in earnest, whatever its outcome. -/
def updated (proxy : KubeProxy) (session : Session Memory) (version : String) : Session Memory :=
  ((proxy.apply Memory.cluster version false).runOn session).2

/-- The store behind an update in earnest. -/
def storeBehind (proxy : KubeProxy) (host : Host) (version : String) (memory : Memory) :
    Table Place Json :=
  match proxy.proposal host version (memory.found host proxy.name proxy.scope),
    memory.updateFault with
  | .error _, _ | .ok none, _ | .ok (some _), some _ => memory.store
  | .ok (some updated), none => memory.store.put (.ofDaemonSet updated) updated

/-- An update leaves how a memory fails, whatever its outcome is. -/
theorem cluster_updated (proxy : KubeProxy) (session : Session Memory) (version : String) :
    let after := (proxy.updated session version).cluster
    after.getFault = session.cluster.getFault ∧ after.updateFault = session.cluster.updateFault ∧
      after.store = proxy.storeBehind session.host version session.cluster := by
  intro after
  obtain ⟨log, hrun⟩ := runOn_apply_memory proxy version false session
  have hafter : after = _ := congrArg (·.2.cluster) hrun
  rw [hafter]
  unfold storeBehind
  cases proxy.proposal session.host version
      (session.cluster.found session.host proxy.name proxy.scope) with
  | error fault => exact ⟨rfl, rfl, rfl⟩
  | ok proposed =>
    cases proposed with
    | none => exact ⟨rfl, rfl, rfl⟩
    | some updated =>
      simp only [Bool.false_eq_true, if_false]
      cases session.cluster.updateFault with
      | some fault => exact ⟨rfl, rfl, rfl⟩
      | none => exact ⟨rfl, rfl, rfl⟩

section StoreBehind

variable {memory : Memory} {daemonSet : Json} {fault : Fault}

theorem storeBehind_of_updateFault (version : String) (h : memory.updateFault = some fault) :
    proxy.storeBehind host version memory = memory.store := by
  unfold storeBehind
  rw [h]
  split
  · rfl
  · rfl
  · rfl
  · next hnone => cases hnone

theorem storeBehind_of_error (version : String)
    (h : memory.found host proxy.name proxy.scope = .error fault) :
    proxy.storeBehind host version memory = memory.store := by
  unfold storeBehind
  split
  · rfl
  · rfl
  · rfl
  · next updated hproposal _ =>
    obtain ⟨daemonSet, hfound, -⟩ := proposal_eq_some_iff.mp hproposal
    rw [h] at hfound
    cases hfound

/-- An update puts the target in the place of the DaemonSet, also when that is the same. -/
theorem storeBehind_of_found (version : String) (hfiled : Memory.Filed memory.store)
    (hfault : memory.updateFault = none)
    (h : memory.found host proxy.name proxy.scope = .ok daemonSet) :
    proxy.storeBehind host version memory = memory.store.put
      (.ofDaemonSet (proxy.target host version daemonSet)) (proxy.target host version daemonSet) := by
  have hheld := hfiled.put_held (Memory.get?_of_found h)
  unfold storeBehind target
  rw [h, proposal_ok, hfault]
  cases proxy.assess host version daemonSet with
  | error fault => exact hheld.symm
  | ok proposed =>
    cases proposed with
    | none => exact hheld.symm
    | some updated => rfl

/-- The target of a DaemonSet that was found can be copied as that was. -/
theorem copies_of_target (version : String)
    (h : memory.found host proxy.name proxy.scope = .ok daemonSet) :
    host.copyFault? Memory.fetchCalls (proxy.target host version daemonSet) = none := by
  have hcopies := Memory.copies_of_found h
  unfold target
  split
  · exact hcopies
  · exact hcopies
  · next updated hassess => exact copies_of_assess (Nat.le_refl _) h hassess

end StoreBehind

theorem filed_updated {session : Session Memory} (version : String)
    (h : Memory.Filed session.cluster.store) :
    Memory.Filed (proxy.updated session version).cluster.store :=
  ((Operation.apply version false).on_keeps h).1

/-- The second of two updates leaves the store that it leaves alone. -/
theorem store_updated_updated {first second : String} {session : Session Memory}
    (hfirst : archLabelFor first = .ok label) (hsecond : archLabelFor second = .ok label)
    (hbuild : ':' ∉ proxy.imageBuild.text.toList) (hfiled : Memory.Filed session.cluster.store) :
    (proxy.updated (proxy.updated session first) second).cluster.store =
      (proxy.updated session second).cluster.store := by
  obtain ⟨hget, hupdate, hstore⟩ := cluster_updated proxy session first
  obtain ⟨-, -, hboth⟩ := cluster_updated proxy (proxy.updated session first) second
  obtain ⟨-, -, halone⟩ := cluster_updated proxy session second
  have hhost : (proxy.updated session first).host = session.host :=
    host_apply_memory proxy first false session
  rw [hboth, halone, hhost]
  cases hfault : session.cluster.updateFault with
  | some fault =>
    rw [storeBehind_of_updateFault second (hupdate.trans hfault),
      storeBehind_of_updateFault second hfault, hstore, storeBehind_of_updateFault first hfault]
  | none =>
    cases hfound : session.cluster.found session.host proxy.name proxy.scope with
    | error fault =>
      rw [storeBehind_of_error first hfound] at hstore
      have hagain := Memory.found_congr hget hstore session.host proxy.name proxy.scope
      rw [storeBehind_of_error second (hagain.trans hfound), storeBehind_of_error second hfound,
        hstore]
    | ok daemonSet =>
      rw [storeBehind_of_found first hfiled hfault hfound] at hstore
      have hplace := place_target proxy session.host first daemonSet
      have hagain :=
        Memory.found_of_put hfiled hfound hplace (copies_of_target first hfound) hget hstore
      rw [storeBehind_of_found second (filed_updated first hfiled) (hupdate.trans hfault) hagain,
        storeBehind_of_found second hfiled hfault hfound, hstore,
        target_target hfirst hsecond hbuild]
      exact hfiled.put_put (Memory.get?_of_found hfound) hplace
        (place_target proxy session.host second daemonSet)

/-- Of several updates the last one decides. -/
theorem store_foldl_updated {last : String} (versions : List String) (session : Session Memory)
    (hversions : ∀ version ∈ versions, archLabelFor version = .ok label)
    (hlast : archLabelFor last = .ok label) (hbuild : ':' ∉ proxy.imageBuild.text.toList)
    (hfiled : Memory.Filed session.cluster.store) :
    ((versions ++ [last]).foldl proxy.updated session).cluster.store =
      (proxy.updated session last).cluster.store := by
  induction versions generalizing session with
  | nil => rfl
  | cons version versions ih =>
    calc
      _ = ((versions ++ [last]).foldl proxy.updated (proxy.updated session version)).cluster.store :=
        rfl
      _ = (proxy.updated (proxy.updated session version) last).cluster.store :=
        ih (proxy.updated session version)
          (fun other hother ↦ hversions other (List.mem_cons_of_mem _ hother))
          (filed_updated version hfiled)
      _ = _ := store_updated_updated (hversions version List.mem_cons_self) hlast hbuild hfiled

/-- A later update absorbs earlier ones.  When all versions have the same architecture label, the
store behind several updates is the store behind the last of them alone, whatever became of each; in
particular one update comes to the same as any number of them. -/
theorem last_update_absorbs (proxy : KubeProxy) (edits : List Memory.Edit) (memory : Memory)
    (log : Log) (host : Host) (versions : List String) (last label : String)
    (hversions : ∀ version ∈ versions, archLabelFor version = .ok label)
    (hlast : archLabelFor last = .ok label) (hbuild : ':' ∉ proxy.imageBuild.text.toList) :
    let start : Session Memory := ⟨{ memory with store := (Memory.edited edits).store }, log, host⟩
    let storeAfter versions := (versions.foldl proxy.updated start).cluster.store
    storeAfter (versions ++ [last]) = storeAfter [last] ∧
      ∀ count, storeAfter (List.replicate (count + 1) last) = storeAfter [last] := by
  intro start storeAfter
  have hfiled : Memory.Filed start.cluster.store := Memory.filed_edited edits
  refine ⟨store_foldl_updated versions start hversions hlast hbuild hfiled, fun count ↦ ?_⟩
  rw [List.replicate_succ']
  apply store_foldl_updated _ start _ hlast hbuild hfiled
  intro version hversion
  rw [List.eq_of_mem_replicate hversion]
  exact hlast

/-- A DaemonSet in the place that the addon has by default, selecting nodes by labels. -/
def workloadOn (labels : List String) : Json :=
  let expression label := Json.obj
    [("key", .str label), ("operator", .str "In"), ("values", .arr [.str "amd64"])]
  let affinity := Json.obj [("nodeAffinity", .obj [("requiredDuringSchedulingIgnoredDuringExecution",
    .obj [("nodeSelectorTerms", .arr [.obj [("matchExpressions", .arr (labels.map expression))]])])])]
  .obj [("metadata", .obj [("name", .str "kube-proxy"), ("namespace", .str "kube-system")]),
    ("spec", .obj [("template", .obj [("spec", .obj [("affinity", affinity),
      ("containers", .arr [.obj [("image", .str "registry:v1.17")]])])])])]

/-- Updates to two versions and then to one between them. -/
theorem last_update_absorbs_between :
    let proxy := KubeProxy.ofSettings []
    let memory : Memory := {}
    let start : Session Memory :=
      ⟨{ memory with store := (Memory.edited [.put (workloadOn [archLabel])]).store }, [], .usual⟩
    let storeAfter versions := (versions.foldl proxy.updated start).cluster.store
    (∀ version ∈ ["1.20", "1.28"], archLabelFor version = .ok archLabel) ∧
      archLabelFor "1.27" = .ok archLabel ∧ ':' ∉ proxy.imageBuild.text.toList ∧
      storeAfter (["1.20", "1.28"] ++ ["1.27"]) = storeAfter ["1.27"] ∧
      ∀ count, storeAfter (List.replicate (count + 1) "1.27") = storeAfter ["1.27"] := by
  intro proxy memory start storeAfter
  have hversions : ∀ version ∈ ["1.20", "1.28"], archLabelFor version = .ok archLabel := by
    decide +kernel
  have hlast : archLabelFor "1.27" = .ok archLabel := by decide +kernel
  have hbuild : ':' ∉ proxy.imageBuild.text.toList := by decide +kernel
  have habsorbs := last_update_absorbs proxy [.put (workloadOn [archLabel])] memory [] .usual
    ["1.20", "1.28"] "1.27" archLabel hversions hlast hbuild
  dsimp only [storeAfter, start]
  exact ⟨hversions, hlast, hbuild, habsorbs⟩

section Again

variable {session : Session Memory} {daemonSet : Json}

/-- An update of a DaemonSet that is as it should be does nothing, in earnest or not. -/
theorem apply_of_settled (dryRun : Bool)
    (hfound : session.cluster.found session.host proxy.name proxy.scope = .ok daemonSet)
    (hassess : proxy.assess session.host version daemonSet = .ok none) :
    let again := (proxy.apply Memory.cluster version dryRun).runOn session
    again.1 = .ok .noChangeNeeded ∧ again.2.cluster.store = session.cluster.store ∧
      proxy.sends Memory.cluster version dryRun session = [] := by
  intro again
  obtain ⟨log, hrun⟩ := runOn_apply_memory proxy version dryRun session
  rw [hfound, proposal_ok, hassess] at hrun
  change again = _ at hrun
  have hread : (Memory.cluster.fetch proxy.name proxy.scope).runOn session = _ :=
    Memory.runOn_fetch proxy.name proxy.scope session
  rw [hrun, sends_eq hread, hfound, proposal_ok, hassess]
  exact ⟨rfl, rfl, rfl⟩

/-- An update that wants a DaemonSet as it is already sends it, and changes nothing. -/
theorem apply_of_pending (hfiled : Memory.Filed session.cluster.store)
    (hfault : session.cluster.updateFault = none)
    (hfound : session.cluster.found session.host proxy.name proxy.scope = .ok daemonSet)
    (hassess : proxy.assess session.host version daemonSet = .ok (some daemonSet)) (dryRun : Bool) :
    let again := (proxy.apply Memory.cluster version dryRun).runOn session
    again.1 = .ok (if dryRun then .changePending else .applied) ∧
      again.2.cluster.store = session.cluster.store ∧
      proxy.sends Memory.cluster version dryRun session = if dryRun then [] else [daemonSet] := by
  intro again
  obtain ⟨log, hrun⟩ := runOn_apply_memory proxy version dryRun session
  rw [hfound, proposal_ok, hassess, hfault] at hrun
  change again = _ at hrun
  have hread : (Memory.cluster.fetch proxy.name proxy.scope).runOn session = _ :=
    Memory.runOn_fetch proxy.name proxy.scope session
  rw [hrun, sends_eq hread, hfound, proposal_ok, hassess]
  rw [hindrance_of_found hfound]
  cases dryRun with
  | true => exact ⟨rfl, rfl, rfl⟩
  | false => exact ⟨rfl, hfiled.put_held (Memory.get?_of_found hfound), rfl⟩

end Again

/-- An update that was made, and once more.  When some required expression of the DaemonSet is on
the architecture label, there is nothing left to change, in earnest or not.  When none is, there is
no expression to open, and the change stays pending: a dry run reports it, and an update in earnest
sends the DaemonSet once more as it is in the store.  The store stays in any case. -/
theorem apply_again (proxy : KubeProxy) (edits : List Memory.Edit) (memory : Memory) (log : Log)
    (host : Host) (version : String) (hbuild : ':' ∉ proxy.imageBuild.text.toList) :
    let start : Session Memory := ⟨{ memory with store := (Memory.edited edits).store }, log, host⟩
    let first := (proxy.apply Memory.cluster version false).runOn start
    first.1 = .ok .applied →
      ∃ label daemonSet sent, archLabelFor version = .ok label ∧
        start.cluster.found host proxy.name proxy.scope = .ok daemonSet ∧
        first.2.cluster.found host proxy.name proxy.scope = .ok sent ∧
        ∀ (later : Log) (dryRun : Bool),
          let next : Session Memory := ⟨first.2.cluster, later, host⟩
          let again := (proxy.apply Memory.cluster version dryRun).runOn next
          let sends := proxy.sends Memory.cluster version dryRun next
          again.2.cluster.store = first.2.cluster.store ∧
          (Selects label daemonSet → again.1 = .ok .noChangeNeeded ∧ sends = []) ∧
          (¬ Selects label daemonSet →
            again.1 = .ok (if dryRun then .changePending else .applied) ∧
            sends = if dryRun then [] else [sent]) := by
  intro start first happlied
  have hfiled : Memory.Filed start.cluster.store := Memory.filed_edited edits
  obtain ⟨hnone, -⟩ | ⟨daemonSet, sent, -, hfound, hassess, hafter, hfault⟩ :=
    found_of_apply hfiled happlied
  · cases hnone
  obtain ⟨-, -, label, allowed, image, hlabel, -⟩ := assess_eq_ok hassess
  obtain ⟨hon, hoff⟩ := assess_target hlabel hbuild hassess
  refine ⟨label, daemonSet, sent, hlabel, hfound, hafter, ?_⟩
  intro later dryRun next again sends
  have hnext : next.cluster.found next.host proxy.name proxy.scope = .ok sent := hafter
  have hfiledNext : Memory.Filed next.cluster.store := filed_updated version hfiled
  by_cases hselects : Selects label daemonSet
  · obtain ⟨houtcome, hstore, hsends⟩ := apply_of_settled dryRun hnext (hon hselects)
    exact ⟨hstore, fun _ ↦ ⟨houtcome, hsends⟩, fun hnone ↦ absurd hselects hnone⟩
  · obtain ⟨houtcome, hstore, hsends⟩ :=
      apply_of_pending hfiledNext hfault hnext (hoff hselects) dryRun
    exact ⟨hstore, fun hsome ↦ absurd hsome hselects, fun _ ↦ ⟨houtcome, hsends⟩⟩

/-- With an expression on the architecture label, an update is followed by no change. -/
theorem apply_again_on_label :
    let proxy := KubeProxy.ofSettings []
    let memory : Memory := {}
    let start : Session Memory :=
      ⟨{ memory with store := (Memory.edited [.put (workloadOn [archLabel])]).store }, [], .usual⟩
    let first := (proxy.apply Memory.cluster "1.27" false).runOn start
    ':' ∉ proxy.imageBuild.text.toList ∧ first.1 = .ok .applied ∧
      ∀ (later : Log) (dryRun : Bool),
        let next : Session Memory := ⟨first.2.cluster, later, .usual⟩
        ((proxy.apply Memory.cluster "1.27" dryRun).runOn next).1 = .ok .noChangeNeeded ∧
          proxy.sends Memory.cluster "1.27" dryRun next = [] := by
  intro proxy memory
  have hbuild : ':' ∉ proxy.imageBuild.text.toList := by decide +kernel
  have happlied : ((proxy.apply Memory.cluster "1.27" false).runOn
      ⟨{ memory with store := (Memory.edited [.put (workloadOn [archLabel])]).store }, [],
        .usual⟩).1 = .ok .applied :=
    toOption_eq_some_iff.mp (by decide +kernel)
  have hlabel : archLabelFor "1.27" = .ok archLabel := by decide +kernel
  have hfound : { memory with
      store := (Memory.edited [.put (workloadOn [archLabel])]).store }.found .usual proxy.name
        proxy.scope = .ok (workloadOn [archLabel]) := rfl
  have hselects : Selects archLabel (workloadOn [archLabel]) :=
    ⟨_, rfl, _, List.mem_cons_self, rfl⟩
  obtain ⟨label, daemonSet, sent, hlabel', hfound', -, hagain⟩ := apply_again proxy
    [.put (workloadOn [archLabel])] memory [] .usual "1.27" hbuild happlied
  obtain rfl : label = archLabel := Except.ok.inj (hlabel'.symm.trans hlabel)
  obtain rfl : daemonSet = workloadOn [archLabel] := Except.ok.inj (hfound'.symm.trans hfound)
  exact ⟨hbuild, happlied, fun later dryRun ↦ (hagain later dryRun).2.1 hselects⟩

/-- With an expression on another label only, an update is followed by the same update. -/
theorem apply_again_off_label :
    let proxy := KubeProxy.ofSettings []
    let memory : Memory := {}
    let start : Session Memory :=
      ⟨{ memory with store := (Memory.edited [.put (workloadOn [betaArchLabel])]).store }, [],
        .usual⟩
    let first := (proxy.apply Memory.cluster "1.27" false).runOn start
    let next : Session Memory := ⟨first.2.cluster, [], .usual⟩
    ':' ∉ proxy.imageBuild.text.toList ∧ first.1 = .ok .applied ∧
      ((proxy.apply Memory.cluster "1.27" true).runOn next).1 = .ok .changePending ∧
      ((proxy.apply Memory.cluster "1.27" false).runOn next).1 = .ok .applied ∧
      (proxy.sends Memory.cluster "1.27" false next).length = 1 := by
  intro proxy memory start first next
  simp only [← toOption_eq_some_iff]
  decide +kernel

end KubeProxy

end AddonUpkeep
