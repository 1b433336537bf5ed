import AddonUpkeep.Proofs.Cluster.InStep

/-!
# Counting what a client is told to write

A recorded cluster lists every document that it is told to write, whatever becomes of the writing.
Otherwise it works as the cluster that it records.
-/

namespace AddonUpkeep

variable {σ α : Type}

/-- A cluster client, and the documents that it was told to write. -/
structure Recorded (σ : Type) where
  client : σ
  sent : List Json := []

namespace Session

/-- The session of the client alone. -/
def forgetting (session : Session (Recorded σ)) : Session σ :=
  { session with cluster := session.cluster.client }

/-- The first session is the second one with a record. -/
def Forgets (session : Session (Recorded σ)) (alone : Session σ) : Prop :=
  session.forgetting = alone

/-- The session with a record that is still empty. -/
def recording (session : Session σ) : Session (Recorded σ) :=
  { session with cluster := ⟨session.cluster, []⟩ }

end Session

theorem alongside_forgets : Alongside (Session.Forgets (σ := σ)) fun _ ↦ True where
  noting := by
    rintro s t log rfl
    rfl
  room := by
    rintro s t rfl
    rfl
  noteFault? := by
    rintro s t document rfl -
    rfl

namespace Task

/-- A task on the client.  The record stays as it is. -/
def onClient (task : Task σ α) : Task (Recorded σ) α :=
  ExceptT.mk fun session ↦
    let (outcome, after) := task.runOn session.forgetting
    (outcome, { after with cluster := ⟨after.cluster, session.cluster.sent⟩ })

end Task

/-- The cluster with a record of the documents that it is told to write. -/
def Cluster.recorded (cluster : Cluster σ) : Cluster (Recorded σ) where
  fetch name scope := (cluster.fetch name scope).onClient
  replace document := do
    Task.change fun recorded ↦ { recorded with sent := recorded.sent ++ [document] }
    (cluster.replace document).onClient

namespace Cluster

theorem runOn_recorded_replace (cluster : Cluster σ) (document : Json)
    (session : Session (Recorded σ)) :
    (cluster.recorded.replace document).runOn session =
      (((cluster.replace document).runOn session.forgetting).1,
        { (cluster.replace document).runOn session.forgetting |>.2 with
          cluster := ⟨((cluster.replace document).runOn session.forgetting).2.cluster,
            session.cluster.sent ++ [document]⟩ }) := rfl

/-- Recording changes nothing else: the cluster with a record is in step with the one without. -/
theorem inStep_recorded (cluster : Cluster σ) :
    cluster.recorded.InStep Session.Forgets (fun _ ↦ True) cluster where
  fetch name scope := by
    rintro s t rfl
    exact ⟨rfl, rfl⟩
  fetched _ _ _ _ _ _ _ := trivial
  replace document _ := by
    rintro s t rfl
    rw [runOn_recorded_replace]
    exact ⟨rfl, rfl⟩

end Cluster

end AddonUpkeep
