import AddonUpkeep.Cluster.Host

/-!
# Tasks on a cluster

A task reads and changes the state of a cluster client, writes to the log of its host, and ends with
a value or a fault.  A fault keeps the state and the log as they were when it occurred.
-/

namespace AddonUpkeep

/-- A cluster client at work: its state, the log so far and the host that it works on. -/
structure Session (σ : Type) where
  cluster : σ
  log : Log := []
  host : Host := .usual

/-- The session with more entries in its log, as far as its host keeps them. -/
def Session.noting {σ : Type} (session : Session σ) (log : Log) : Session σ :=
  { session with log := session.log ++ log.atLeast session.host.level }

/-- Work on a session that cannot fail. -/
abbrev Work (σ α : Type) := StateM (Session σ) α

/-- Work on a session that ends with a value or a fault. -/
abbrev Task (σ α : Type) := ExceptT Fault (StateM (Session σ)) α

/-- Add an entry to the log. -/
def Work.log {σ : Type} (level : LogLevel) (text : String) : Work σ Unit :=
  modify (·.noting [⟨level, text⟩])

namespace Task

variable {σ α : Type}

/-- Add an entry to the log. -/
def log (level : LogLevel) (text : String) : Task σ Unit :=
  ExceptT.lift (Work.log level text)

/-- End with a fault. -/
def fail (fault : Fault) : Task σ α := throw fault

/-- The state of the client. -/
def cluster : Task σ σ := do return (← get).cluster

/-- The host of the session. -/
def host : Task σ Host := do return (← get).host

/-- Change the state of the client. -/
def change (f : σ → σ) : Task σ Unit :=
  modify fun session ↦ { session with cluster := f session.cluster }

/-- The value of a reading of a document, with its problem as the fault. -/
def ofShape (reading : Except ShapeProblem α) : Task σ α :=
  match reading with
  | .ok value => pure value
  | .error problem => fail (.shape problem)

/-- The value of a reading, with its fault. -/
def ofExcept (reading : Except Fault α) : Task σ α :=
  match reading with
  | .ok value => pure value
  | .error fault => fail fault

/-- End with a fault when there is one. -/
def check (fault? : Option Fault) : Task σ Unit :=
  match fault? with
  | some fault => fail fault
  | none => pure ()

/-- The outcome of a task, which cannot fail any more. -/
def outcome (task : Task σ α) : Work σ (Except Fault α) := task.run

/-- A task and, whatever its outcome, some work behind it. -/
def andThen (task : Task σ α) (last : Work σ Unit) : Task σ α := do
  let outcome ← ExceptT.lift task.outcome
  ExceptT.lift last
  ofExcept outcome

end Task

/-- What addons need of a cluster: reading a DaemonSet by name and namespace, and replacing one. -/
structure Cluster (σ : Type) where
  fetch : Setting → Setting → Task σ Json
  replace : Json → Task σ Json

end AddonUpkeep
