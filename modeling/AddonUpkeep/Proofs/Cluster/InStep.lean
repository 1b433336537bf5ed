import AddonUpkeep.Proofs.Cluster.Host
import AddonUpkeep.Proofs.Cluster.Session
import AddonUpkeep.Proofs.Reading

/-!
# Two tasks in step

Two tasks are in step under a relation of sessions when, from related sessions, they end with the
same outcome and leave related sessions.  What is built from tasks in step is in step, so it is
enough to compare the commands of two clusters.
-/

namespace AddonUpkeep

variable {σ τ α β : Type}

/-- A relation of sessions that is kept when both note the same, and whose hosts have the same room.
Where one of them can write a document of the given ones for its log, so can the other. -/
structure Alongside (R : Session σ → Session τ → Prop) (N : Json → Prop) : Prop where
  noting : ∀ {s t} log, R s t → R (s.noting log) (t.noting log)
  room : ∀ {s t}, R s t → s.host.room = t.host.room
  noteFault? : ∀ {s t document}, R s t → N document →
    s.host.noteFault? document = t.host.noteFault? document

namespace Task

/-- From related sessions both tasks end with the same outcome, and leave related sessions. -/
def InStep (R : Session σ → Session τ → Prop) (first : Task σ α) (second : Task τ α) : Prop :=
  ∀ s t, R s t → (first.runOn s).1 = (second.runOn t).1 ∧ R (first.runOn s).2 (second.runOn t).2

variable {R : Session σ → Session τ → Prop} {N : Json → Prop} {first : Task σ α}
  {second : Task τ α}

theorem inStep_pure (value : α) : InStep R (pure value) (pure value) := fun _ _ h ↦ ⟨rfl, h⟩

theorem inStep_ofExcept (reading : Except Fault α) :
    InStep R (ofExcept reading) (ofExcept reading) := by
  intro s t h
  rw [runOn_ofExcept, runOn_ofExcept]
  exact ⟨rfl, h⟩

theorem inStep_fail (fault : Fault) : InStep R (fail fault : Task σ α) (fail fault) :=
  inStep_ofExcept (.error fault)

theorem inStep_ofShape (reading : Except ShapeProblem α) :
    InStep R (ofShape reading) (ofShape reading) := by
  intro s t h
  rw [runOn_ofShape, runOn_ofShape]
  exact ⟨rfl, h⟩

theorem inStep_check (fault? : Option Fault) : InStep R (check fault?) (check fault?) := by
  cases fault? with
  | some fault => exact inStep_fail fault
  | none => exact inStep_pure ()

theorem inStep_log (hR : Alongside R N) (level : LogLevel) (text : String) :
    InStep R (log level text) (log level text) := by
  intro s t h
  rw [runOn_log, runOn_log]
  exact ⟨rfl, hR.noting _ h⟩

theorem inStep_note (hR : Alongside R N) (addon : String) (level : LogLevel) (text : String) :
    InStep R (Addon.note addon level text) (Addon.note addon level text) :=
  inStep_log hR level _

/-- What looks at the hosts is in step when it is in step for every two that can be met. -/
theorem inStep_host_bind {next : Host → Task σ α} {next' : Host → Task τ α}
    (hnext : ∀ s t, R s t → InStep R (next s.host) (next' t.host)) :
    InStep R (host >>= next) (host >>= next') := by
  intro s t h
  rw [runOn_host_bind, runOn_host_bind]
  exact hnext s t h s t h

theorem inStep_noteDocument (hR : Alongside R N) (addon label : String) {document : Json}
    (hdocument : N document) :
    InStep R (Addon.noteDocument addon label document)
      (Addon.noteDocument addon label document) := by
  intro s t h
  unfold Addon.noteDocument
  rw [runOn_host_bind, runOn_host_bind, runOn_check_bind, runOn_check_bind,
    hR.noteFault? h hdocument]
  cases t.host.noteFault? document with
  | some fault => exact ⟨rfl, h⟩
  | none => exact inStep_note hR addon .debug _ s t h

/-- What follows two tasks in step goes on from the same value, which is of the kind that the first
one gives. -/
theorem InStep.bind_of {next : α → Task σ β} {next' : α → Task τ β} {Q : α → Prop}
    (h : InStep R first second)
    (hfirst : ∀ s t value, R s t → (first.runOn s).1 = .ok value → Q value)
    (hnext : ∀ value, Q value → InStep R (next value) (next' value)) :
    InStep R (first >>= next) (second >>= next') := by
  intro s t hst
  obtain ⟨hsame, hafter⟩ := h s t hst
  have hvalue := fun value ↦ hfirst s t value hst
  rw [runOn_bind, runOn_bind]
  rcases hrun : first.runOn s with ⟨outcome, after⟩
  rcases hrun' : second.runOn t with ⟨outcome', after'⟩
  rw [hrun, hrun'] at hsame hafter
  rw [hrun] at hvalue
  obtain rfl : outcome = outcome' := hsame
  cases outcome with
  | error fault => exact ⟨rfl, hafter⟩
  | ok value => exact hnext value (hvalue value rfl) after after' hafter

/-- What follows two tasks in step goes on from the same value. -/
theorem InStep.bind {next : α → Task σ β} {next' : α → Task τ β} (h : InStep R first second)
    (hnext : ∀ value, InStep R (next value) (next' value)) :
    InStep R (first >>= next) (second >>= next') :=
  h.bind_of (Q := fun _ ↦ True) (fun _ _ _ _ _ ↦ trivial) fun value _ ↦ hnext value

/-- What follows a reading goes on from the value that was read. -/
theorem inStep_ofExcept_bind {reading : Except Fault α} {next : α → Task σ β} {next' : α → Task τ β}
    (hnext : ∀ value, reading = .ok value → InStep R (next value) (next' value)) :
    InStep R (ofExcept reading >>= next) (ofExcept reading >>= next') :=
  (inStep_ofExcept reading).bind_of (Q := fun value ↦ reading = .ok value)
    (fun s _ _ _ h ↦ by rwa [runOn_ofExcept] at h) hnext

/-- What follows a reading of a document goes on from the value that was read. -/
theorem inStep_ofShape_bind {reading : Except ShapeProblem α} {next : α → Task σ β}
    {next' : α → Task τ β}
    (hnext : ∀ value, reading = .ok value → InStep R (next value) (next' value)) :
    InStep R (ofShape reading >>= next) (ofShape reading >>= next') :=
  (inStep_ofShape reading).bind_of (Q := fun value ↦ reading = .ok value)
    (fun s _ _ _ h ↦ by
      rw [runOn_ofShape] at h
      exact mapError_eq_ok_iff.mp h) hnext

theorem InStep.note_when (hR : Alongside R N) (h : InStep R first second) (condition : Bool)
    (addon : String) (level : LogLevel) (text : String) :
    InStep R (if condition then (do Addon.note addon level text; first) else first)
      (if condition then (do Addon.note addon level text; second) else second) := by
  cases condition with
  | true => exact (inStep_note hR addon level text).bind fun _ ↦ h
  | false => exact h

theorem InStep.outcome (h : InStep R first second) :
    InStep R (ExceptT.lift first.outcome) (ExceptT.lift second.outcome) := by
  intro s t hst
  obtain ⟨hsame, hafter⟩ := h s t hst
  rw [runOn_lift, runOn_lift, runOn_outcome, runOn_outcome]
  exact ⟨congrArg Except.ok hsame, hafter⟩

/-- Work that stands behind two tasks is in step when both are. -/
theorem InStep.andThen {last : Work σ Unit} {last' : Work τ Unit} (h : InStep R first second)
    (hlast : InStep R (ExceptT.lift last) (ExceptT.lift last')) :
    InStep R (first.andThen last) (second.andThen last') := by
  unfold Task.andThen
  apply h.outcome.bind
  intro outcome
  apply hlast.bind
  intro _
  exact inStep_ofExcept outcome

end Task

namespace Work

/-- From related sessions both works give the same value, and leave related sessions. -/
def InStep (R : Session σ → Session τ → Prop) (first : Work σ α) (second : Work τ α) : Prop :=
  Task.InStep R (ExceptT.lift first) (ExceptT.lift second)

variable {R : Session σ → Session τ → Prop} {N : Json → Prop} {first : Work σ α} {second : Work τ α}

theorem inStep_pure (value : α) : InStep R (pure value) (pure value) := Task.inStep_pure value

theorem inStep_log (hR : Alongside R N) (level : LogLevel) (text : String) :
    InStep R (log level text) (log level text) :=
  Task.inStep_log hR level text

theorem InStep.bind {next : α → Work σ β} {next' : α → Work τ β} (h : InStep R first second)
    (hnext : ∀ value, InStep R (next value) (next' value)) :
    InStep R (first >>= next) (second >>= next') :=
  Task.InStep.bind h hnext

theorem InStep.log_when (hR : Alongside R N) (h : InStep R first second) (condition : Bool)
    (level : LogLevel) (text : String) :
    InStep R (if condition then (do log level text; first) else first)
      (if condition then (do log level text; second) else second) := by
  cases condition with
  | true => exact (inStep_log hR level text).bind fun _ ↦ h
  | false => exact h

theorem inStep_foldlM {step : β → α → Work σ β} {step' : β → α → Work τ β}
    (h : ∀ state item, InStep R (step state item) (step' state item)) (items : List α) (state : β) :
    InStep R (items.foldlM step state) (items.foldlM step' state) := by
  induction items generalizing state with
  | nil => exact inStep_pure state
  | cons item items ih =>
    rw [List.foldlM_cons, List.foldlM_cons]
    exact (h state item).bind ih

end Work

/-- Both clusters answer every command in step, as long as they are told to write documents of the
given ones.  The first one holds no others. -/
structure Cluster.InStep (R : Session σ → Session τ → Prop) (N : Json → Prop) (first : Cluster σ)
    (second : Cluster τ) : Prop where
  fetch : ∀ name scope, Task.InStep R (first.fetch name scope) (second.fetch name scope)
  fetched : ∀ name scope s t daemonSet, R s t →
    ((first.fetch name scope).runOn s).1 = .ok daemonSet → N daemonSet
  replace : ∀ document, N document →
    Task.InStep R (first.replace document) (second.replace document)

/-- A relation of sessions whose clients are in one state, in which a property holds.  The sessions
stay related when the state changes to another one with the property. -/
structure Akin (R : Session σ → Session σ → Prop) (P : σ → Prop) (N : Json → Prop) : Prop
    extends Alongside R N where
  cluster : ∀ {s t}, R s t → s.cluster = t.cluster
  holds : ∀ {s t}, R s t → P s.cluster
  change : ∀ {s t} (f : σ → σ), R s t → P (f s.cluster) →
    R { s with cluster := f s.cluster } { t with cluster := f t.cluster }

namespace Task

variable {R : Session σ → Session σ → Prop} {P : σ → Prop} {N : Json → Prop}

/-- A change that keeps the property of the states is in step with itself. -/
theorem inStep_change (hR : Akin R P N) {f : σ → σ} (hf : ∀ state, P state → P (f state)) :
    InStep R (change f) (change f) := by
  intro s t h
  rw [runOn_change, runOn_change]
  exact ⟨rfl, hR.change f h (hf _ (hR.holds h))⟩

/-- What looks at the state of the client finds the same one in both sessions. -/
theorem inStep_cluster_bind (hR : Akin R P N) {next : σ → Task σ α}
    (hnext : ∀ state, P state → InStep R (next state) (next state)) :
    InStep R (Task.cluster >>= next) (Task.cluster >>= next) := by
  intro s t h
  rw [runOn_bind, runOn_bind, runOn_cluster, runOn_cluster, hR.cluster h]
  have hstate := hR.holds h
  rw [hR.cluster h] at hstate
  exact hnext t.cluster hstate s t h

end Task

/-- Two sessions on one host whose clients are in the same state, whatever their logs. -/
structure Session.SameCluster (s t : Session σ) : Prop where
  cluster : s.cluster = t.cluster
  host : s.host = t.host

theorem akin_sameCluster {P : σ → Prop} (hP : ∀ state, P state) :
    Akin (Session.SameCluster (σ := σ)) P fun _ ↦ True where
  noting _ h := ⟨h.cluster, h.host⟩
  room h := congrArg Host.room h.host
  noteFault? h _ := by rw [h.host]
  cluster h := h.cluster
  holds _ := hP _
  change f h _ := ⟨congrArg f h.cluster, h.host⟩

theorem alongside_sameCluster : Alongside (Session.SameCluster (σ := σ)) fun _ ↦ True :=
  (akin_sameCluster (P := fun _ ↦ True) fun _ ↦ trivial).toAlongside

/-- What a cluster does depends on the state of its client and on its host only, and not on the
log. -/
def Cluster.IgnoresLog (cluster : Cluster σ) : Prop :=
  Cluster.InStep Session.SameCluster (fun _ ↦ True) cluster cluster

end AddonUpkeep
