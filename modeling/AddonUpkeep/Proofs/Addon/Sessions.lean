import AddonUpkeep.Proofs.Cluster.Levels

/-!
# Sessions at a level of the log

A session is a row of steps on one client: requests to the client itself, operations of an addon,
and checks and updates by name.  The level of the log shows in the logs of the steps, and in nothing
else, as long as the host can write the documents that it has to write for its log.
-/

namespace AddonUpkeep

variable {σ : Type}

/-- An addon of a session: kube-proxy, or one that has its answers without a cluster. -/
inductive Worker where
  | kubeProxy (proxy : KubeProxy)
  | standing (name : String) (isUpToDate : String → Except Fault Bool)
      (apply : String → Bool → Except Fault Outcome)

/-- The addon on a cluster. -/
def Worker.addon (cluster : Cluster σ) : Worker → Addon σ
  | kubeProxy proxy => proxy.addon cluster
  | standing name isUpToDate apply =>
    ⟨name, fun version ↦ Task.ofExcept (isUpToDate version),
      fun version dryRun ↦ Task.ofExcept (apply version dryRun)⟩

/-- A cluster client, and the task that it is made with. -/
structure Client (σ : Type) where
  cluster : Cluster σ
  start : Task σ Unit

/-- The client in memory, which is made without a check. -/
def Client.memory : Client Memory := ⟨Memory.cluster, pure ()⟩

/-- The client behind the command, which has to be there. -/
def Client.kubectl (access : Kubectl.Access) : Client Kubectl.Transcript :=
  ⟨Kubectl.cluster access, Kubectl.checkClient⟩

/-- What a step of a session answers. -/
inductive Answer where
  | nothing
  | document (document : Json)
  | flag (value : Bool)
  | outcome (outcome : Outcome)
  | checked (result : Result Bool)
  | ran (result : Result Outcome)
  | allChecked (summary : Summary Bool)
  | allUpdated (summary : Summary Outcome)
  | text (content : String)

/-- A step of a session.  The client is made, asked for a DaemonSet or told to replace one, or its
state is changed from outside; an addon is asked for one of its operations or to write to the log;
addons are checked or updated by name; or a reading is told that needs no client. -/
inductive Step (σ : Type) where
  | start
  | fetch (name scope : Setting)
  | replace (daemonSet : Json)
  | change (f : σ → σ)
  | isUpToDate (worker : Worker) (version : String)
  | check (worker : Worker) (version : String)
  | apply (worker : Worker) (version : String) (dryRun : Bool)
  | run (worker : Worker) (version : String) (dryRun : Bool)
  | note (addon : String) (entry : LogLevel) (text : String)
  | noteDocument (addon label : String) (document : Json)
  | checkAll (settings : Table String (Option Settings)) (names : List String) (version : String)
  | updateAll (settings : Table String (Option Settings)) (names : List String) (version : String)
      (dryRun : Bool)
  | tell (reading : Except Fault String)

/-- The task of a step. -/
def Step.task (client : Client σ) : Step σ → Task σ Answer
  | start => do
    client.start
    return .nothing
  | fetch name scope => do return .document (← client.cluster.fetch name scope)
  | replace daemonSet => do return .document (← client.cluster.replace daemonSet)
  | change f => do
    Task.change f
    return .nothing
  | isUpToDate worker version => do
    return .flag (← (worker.addon client.cluster).isUpToDate version)
  | check worker version => do
    return .checked (← ExceptT.lift ((worker.addon client.cluster).check version))
  | apply worker version dryRun => do
    return .outcome (← (worker.addon client.cluster).apply version dryRun)
  | run worker version dryRun => do
    return .ran (← ExceptT.lift ((worker.addon client.cluster).run version dryRun))
  | note addon entry text => do
    Addon.note addon entry text
    return .nothing
  | noteDocument addon label document => do
    Addon.noteDocument addon label document
    return .nothing
  | checkAll settings names version => do
    return .allChecked (← ExceptT.lift (Summary.check settings client.cluster names version))
  | updateAll settings names version dryRun => do
    return .allUpdated
      (← ExceptT.lift (Summary.update settings client.cluster names version dryRun))
  | tell reading => do return .text (← Task.ofExcept reading)

/-- What is left of a step: its answer, the state of the client, which holds what the client was
asked, and the log of the step. -/
structure StepTrace (σ : Type) where
  answer : Except Fault Answer
  state : σ
  log : Log

namespace StepTrace

/-- What is left of a task that has ended. -/
def of (ended : Except Fault Answer × Session σ) : StepTrace σ :=
  ⟨ended.1, ended.2.cluster, ended.2.log⟩

/-- The trace with those entries that are at a level or above. -/
def cut (trace : StepTrace σ) (level : LogLevel) : StepTrace σ :=
  { trace with log := trace.log.atLeast level }

end StepTrace

/-- What is left of the steps of a session on a host. -/
def traces (client : Client σ) (host : Host) : List (Step σ) → σ → List (StepTrace σ)
  | [], _ => []
  | step :: steps, state =>
    let ended := (step.task client).runOn ⟨state, [], host⟩
    .of ended :: traces client host steps ended.2.cluster

/-- What a step brings into a session is among the given documents, and a change from outside keeps
a property of the states. -/
def Step.Keeps (N : Json → Prop) (P : σ → Prop) : Step σ → Prop
  | replace daemonSet => N daemonSet
  | change f => ∀ state, P state → P (f state)
  | noteDocument _ _ document => N document
  | _ => True

/-- A client that does the same in two sessions that are akin, where a state is told to hold none
but some documents. -/
structure Client.Steady (client : Client σ) (Holds : (Json → Prop) → σ → Prop) : Prop where
  start : ∀ {R : Session σ → Session σ → Prop} {N}, Akin R (Holds N) N →
    Task.InStep R client.start client.start
  cluster : ∀ {R : Session σ → Session σ → Prop} {N}, Akin R (Holds N) N →
    client.cluster.InStep R N client.cluster

theorem Client.steady_memory : Client.memory.Steady Memory.Holds :=
  ⟨fun _ ↦ Task.inStep_pure (), Memory.inStep⟩

theorem Client.steady_kubectl (access : Kubectl.Access) :
    (Client.kubectl access).Steady Kubectl.Transcript.Holds :=
  ⟨Kubectl.inStep_checkClient, fun hR ↦ Kubectl.inStep hR access⟩

variable {client : Client σ} {Holds : (Json → Prop) → σ → Prop}

section Akin

variable {R : Session σ → Session σ → Prop} {N : Json → Prop} (h : client.Steady Holds)
  (hR : Akin R (Holds N) N) (hN : KubeProxy.KeepsRenewal N)

include h hR hN

theorem Worker.inStep_addon (worker : Worker) :
    (worker.addon client.cluster).InStep R (worker.addon client.cluster) := by
  cases worker with
  | kubeProxy proxy => exact proxy.inStep_addon hR.toAlongside hN (h.cluster hR)
  | standing name isUpToDate apply =>
    exact ⟨rfl, fun version ↦ Task.inStep_ofExcept _, fun version dryRun ↦ Task.inStep_ofExcept _⟩

/-- One case for each kind of step: it does the same in two sessions that are akin. -/
theorem Step.inStep_task (step : Step σ) (hstep : step.Keeps N (Holds N)) :
    Task.InStep R (step.task client) (step.task client) := by
  have hnotes := hR.toAlongside
  have hcluster := h.cluster hR
  have hdone {α : Type} {task : Task σ α} (htask : task.InStep R task) (answer : α → Answer) :
      Task.InStep R (do return answer (← task)) (do return answer (← task)) :=
    htask.bind fun value ↦ Task.inStep_pure (answer value)
  cases step with
  | start => exact hdone (h.start hR) fun _ ↦ .nothing
  | fetch name scope => exact hdone (hcluster.fetch name scope) .document
  | replace daemonSet => exact hdone (hcluster.replace daemonSet hstep) .document
  | change f => exact hdone (Task.inStep_change hR hstep) fun _ ↦ .nothing
  | isUpToDate worker version =>
    exact hdone ((worker.inStep_addon h hR hN).isUpToDate version) .flag
  | check worker version => exact hdone ((worker.inStep_addon h hR hN).check hnotes version) .checked
  | apply worker version dryRun =>
    exact hdone ((worker.inStep_addon h hR hN).apply version dryRun) .outcome
  | run worker version dryRun =>
    exact hdone ((worker.inStep_addon h hR hN).run hnotes version dryRun) .ran
  | note addon entry text => exact hdone (Task.inStep_note hnotes addon entry text) fun _ ↦ .nothing
  | noteDocument addon label document =>
    exact hdone (Task.inStep_noteDocument hnotes addon label hstep) fun _ ↦ .nothing
  | checkAll settings names version =>
    exact hdone (Summary.inStep_check hnotes hN hcluster settings names version) .allChecked
  | updateAll settings names version dryRun =>
    exact hdone (Summary.inStep_update hnotes hN hcluster settings names version dryRun) .allUpdated
  | tell reading => exact hdone (Task.inStep_ofExcept reading) .text

end Akin

/-- The level of the log shows in the log only.  At a level, every step of a session has the answer
and leaves the state that it does at a lower one, and its log is the part of the log there from the
level on.  The documents that the client starts with and that the steps bring in are ones that the
host can write for its log, if it has to at the lower level. -/
def ShowsInLogOnly (client : Client σ) (Holds : (Json → Prop) → σ → Prop) : Prop :=
  ∀ (host : Host) (level : LogLevel) (steps : List (Step σ)) (state : σ),
    host.level.rank ≤ level.rank → Holds host.Notes state →
    (∀ step ∈ steps, step.Keeps host.Notes (Holds host.Notes)) →
      traces client (host.withLevel level) steps state =
        (traces client host steps state).map fun trace ↦ trace.cut level

theorem Client.Steady.showsInLogOnly (h : client.Steady Holds) : ShowsInLogOnly client Holds := by
  intro host level steps state hlevel hstate hsteps
  induction steps generalizing state with
  | nil => rfl
  | cons step steps ih =>
    obtain ⟨hstep, hlater⟩ := List.forall_mem_cons.mp hsteps
    have hinStep := step.inStep_task h (Session.akin_cutTo hlevel) host.keepsRenewal_notes hstep
    obtain ⟨hrun, hafter⟩ := hinStep.runOn_cut hstate []
    have hrun : (step.task client).runOn ⟨state, [], host.withLevel level⟩ = _ := hrun
    rw [traces, hrun]
    exact congrArg _ (ih _ hafter hlater)

end AddonUpkeep
