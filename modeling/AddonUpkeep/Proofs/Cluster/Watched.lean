import AddonUpkeep.Proofs.Cluster.InStep

/-!
# Watching what a client is asked

A watched cluster lists every request that its client gets, in order and with its arguments.
Otherwise it works as the cluster that it watches: a cluster that does not look at the log does not
when it is watched.
-/

namespace AddonUpkeep

variable {σ α : Type}

/-- What a client can be asked. -/
inductive Request where
  | fetch (name scope : Setting)
  | replace (document : Json)

/-- A cluster client, and the requests that it got. -/
structure Watched (σ : Type) where
  client : σ
  requests : List Request := []

namespace Session

/-- The session of the client alone. -/
def unwatched (session : Session (Watched σ)) : Session σ :=
  { session with cluster := session.cluster.client }

/-- The session with a list of requests that is still empty. -/
def watching (session : Session σ) : Session (Watched σ) :=
  { session with cluster := ⟨session.cluster, []⟩ }

/-- The clients of a watched session and of another one on the same host are in the same state. -/
structure SameClient (session : Session (Watched σ)) (other : Session σ) : Prop where
  client : session.cluster.client = other.cluster
  host : session.host = other.host

end Session

theorem alongside_sameClient : Alongside (Session.SameClient (σ := σ)) fun _ ↦ True where
  noting _ h := ⟨h.client, h.host⟩
  room h := congrArg Host.room h.host
  noteFault? h _ := by rw [h.host]

/-- A task of the client, on a request. -/
def Task.onRequest (request : Request) (task : Task σ α) : Task (Watched σ) α :=
  ExceptT.mk fun session ↦
    let (outcome, after) := task.runOn session.unwatched
    (outcome, { after with cluster := ⟨after.cluster, session.cluster.requests ++ [request]⟩ })

/-- The cluster with a list of the requests that its client gets. -/
def Cluster.watched (cluster : Cluster σ) : Cluster (Watched σ) where
  fetch name scope := (cluster.fetch name scope).onRequest (.fetch name scope)
  replace document := (cluster.replace document).onRequest (.replace document)

namespace Task

theorem runOn_onRequest (request : Request) (task : Task σ α) (session : Session (Watched σ)) :
    (task.onRequest request).runOn session =
      ((task.runOn session.unwatched).1,
        { task.runOn session.unwatched |>.2 with
          cluster := ⟨(task.runOn session.unwatched).2.cluster,
            session.cluster.requests ++ [request]⟩ }) := rfl

theorem inStep_onRequest {task : Task σ α} (request : Request)
    (h : InStep Session.SameCluster task task) :
    InStep Session.SameCluster (task.onRequest request) (task.onRequest request) := by
  intro s t hst
  have hclient : s.unwatched.cluster = t.unwatched.cluster := congrArg Watched.client hst.cluster
  have hrequests : s.cluster.requests = t.cluster.requests := congrArg Watched.requests hst.cluster
  obtain ⟨houtcome, hafter⟩ := h s.unwatched t.unwatched ⟨hclient, hst.host⟩
  rw [runOn_onRequest, runOn_onRequest]
  exact ⟨houtcome, congrArg₂ Watched.mk hafter.cluster (congrArg (· ++ [request]) hrequests),
    hafter.host⟩

theorem sameClient_onRequest {task : Task σ α} (request : Request)
    (h : InStep Session.SameCluster task task) :
    InStep Session.SameClient (task.onRequest request) task := by
  intro s t hst
  obtain ⟨houtcome, hafter⟩ := h s.unwatched t ⟨hst.client, hst.host⟩
  rw [runOn_onRequest]
  exact ⟨houtcome, hafter.cluster, hafter.host⟩

end Task

namespace Cluster

variable {cluster : Cluster σ}

/-- Watching a cluster that ignores the log gives one that does. -/
theorem IgnoresLog.watched (h : cluster.IgnoresLog) : cluster.watched.IgnoresLog where
  fetch name scope := Task.inStep_onRequest _ (h.fetch name scope)
  fetched _ _ _ _ _ _ _ := trivial
  replace document _ := Task.inStep_onRequest _ (h.replace document trivial)

/-- Watching changes nothing for the client. -/
theorem IgnoresLog.sameClient (h : cluster.IgnoresLog) :
    cluster.watched.InStep Session.SameClient (fun _ ↦ True) cluster where
  fetch name scope := Task.sameClient_onRequest _ (h.fetch name scope)
  fetched _ _ _ _ _ _ _ := trivial
  replace document _ := Task.sameClient_onRequest _ (h.replace document trivial)

end Cluster

end AddonUpkeep
