import AddonUpkeep.Proofs.Cluster.InStep
import AddonUpkeep.Proofs.Cluster.Kubectl
import AddonUpkeep.Proofs.Cluster.Memory

/-!
# Clients in step with themselves

The client in memory and the one behind the command do the same in two sessions that are akin, as
long as all documents that they can come to hold are among the given ones.  Neither looks at the
log.
-/

namespace AddonUpkeep

open AddonUpkeep.Task

variable {N : Json → Prop}

namespace Memory

variable {R : Session Memory → Session Memory → Prop}

/-- All DaemonSets of the store are among the given documents. -/
def Holds (N : Json → Prop) (memory : Memory) : Prop := ∀ entry ∈ memory.store, N entry.2

theorem Holds.put {memory : Memory} {daemonSet : Json} (h : memory.Holds N) (hnew : N daemonSet) :
    (memory.put daemonSet).Holds N := by
  intro entry hentry
  unfold Memory.put at hentry
  rcases put_cases memory.store (.ofDaemonSet daemonSet) daemonSet with
    ⟨-, hput⟩ | ⟨before, key, held, after, hstore, -, -, hput⟩
  · rw [hput] at hentry
    rcases List.mem_append.mp hentry with hold | hlast
    · exact h entry hold
    · rw [List.mem_singleton.mp hlast]
      exact hnew
  · rw [hput] at hentry
    rw [Holds, hstore] at h
    rcases List.mem_append.mp hentry with hold | hlast
    · exact h entry (by simp [hold])
    · rcases List.mem_cons.mp hlast with rfl | hlater
      · exact hnew
      · exact h entry (by simp [hlater])

/-- What is found is among the documents that are held. -/
theorem Holds.found {memory : Memory} {host : Host} {name scope : Setting} {daemonSet : Json}
    (h : memory.Holds N) (hfound : memory.found host name scope = .ok daemonSet) :
    N daemonSet := by
  obtain ⟨entry, hfirst, rfl⟩ := Option.map_eq_some_iff.mp (get?_of_found hfound)
  exact h entry (List.mem_of_find?_eq_some hfirst)

theorem inStep (hR : Akin R (Holds N) N) : cluster.InStep R N cluster where
  fetch name scope := by
    intro s t h
    change ((fetch name scope).runOn s).1 = _ ∧ R ((fetch name scope).runOn s).2 _
    rw [show cluster.fetch = fetch from rfl, runOn_fetch, runOn_fetch, ← hR.cluster h]
    refine ⟨found_of_room_eq (hR.room h) s.cluster name scope, ?_⟩
    have hafter := hR.change
      (fun memory ↦ { memory with reads := memory.reads ++ [(name, scope)] }) h (hR.holds h)
    rw [← hR.cluster h] at hafter
    exact hafter
  fetched name scope s t daemonSet h hfetched := by
    change ((fetch name scope).runOn s).1 = _ at hfetched
    rw [runOn_fetch] at hfetched
    exact (hR.holds h).found hfetched
  replace document hdocument := by
    change InStep R (replace document) (replace document)
    unfold replace
    apply inStep_cluster_bind hR
    intro memory _
    cases memory.updateFault with
    | some fault => exact inStep_fail fault
    | none =>
      apply inStep_host_bind
      intro s t h
      rw [Host.copyFault?_congr (hR.room h)]
      apply (inStep_check _).bind
      intro _
      refine InStep.bind (inStep_change hR fun memory h ↦ ?_) fun _ ↦ inStep_pure document
      exact h.put hdocument

theorem ignoresLog : cluster.IgnoresLog :=
  inStep (akin_sameCluster fun _ _ _ ↦ trivial)

end Memory

namespace Kubectl

variable {R : Session Transcript → Session Transcript → Prop}

/-- All documents that replies to come print are among the given ones. -/
def Transcript.Holds (N : Json → Prop) (transcript : Transcript) : Prop :=
  ∀ code output errors document, .finished code (.text output) errors ∈ transcript.replies →
    Json.parse output = .ok document → N document

/-- An object that the next reply offers is printed by it. -/
theorem Transcript.Holds.offers {transcript : Transcript} {document : Json}
    (h : transcript.Holds N) (hoffers : transcript.Offers document) : N document := by
  obtain ⟨output, errors, hresult, hparse, fields, hfields⟩ := hoffers
  unfold Transcript.nextResult at hresult
  cases hreplies : transcript.replies with
  | nil =>
    rw [hreplies] at hresult
    cases hresult
    have hempty : (Json.parse "").isOk = false := by decide +kernel
    rw [hparse] at hempty
    cases hempty
  | cons reply replies =>
    rw [hreplies] at hresult
    have hmem : reply ∈ transcript.replies := by simp [hreplies]
    cases reply with
    | finished code printed complaint =>
      cases printed with
      | text content =>
        cases hresult
        exact h _ _ _ _ hmem hparse
      | echo =>
        -- a reading sends no file, so its echo is `null`, which is no object
        cases hresult
        have hnull : Json.parse "null" = .ok .null := by decide +kernel
        rw [Option.getD_none, hnull, hfields] at hparse
        cases hparse
    | timedOut => cases hresult
    | missing => cases hresult
    | refused problem => cases hresult

section Akin

variable (hR : Akin R (Transcript.Holds N) N)

include hR

theorem inStep_execute (call : Call) : InStep R (execute call) (execute call) := by
  unfold execute
  apply inStep_cluster_bind hR
  intro transcript _
  refine InStep.bind (inStep_change hR fun transcript h ↦ ?_) fun _ ↦ inStep_pure _
  intro code output errors document hmem
  exact h code output errors document (List.mem_of_mem_tail hmem)

theorem inStep_checkClient : InStep R checkClient checkClient := by
  unfold checkClient
  apply (inStep_execute hR _).bind
  intro result
  cases result with
  | error interruption =>
    cases interruption with
    | timedOut => exact inStep_fail _
    | missing => exact inStep_fail _
    | refused problem => exact inStep_fail _
  | ok finished =>
    dsimp only
    split
    · exact inStep_fail _
    · exact inStep_log hR.toAlongside _ _

theorem inStep_run (access : Access) (arguments : List Setting) (timeout : Option Int)
    (body : Option String) :
    InStep R (run access arguments timeout body) (run access arguments timeout body) := by
  unfold run
  apply (inStep_ofExcept _).bind
  intro words
  apply (inStep_log hR.toAlongside _ _).bind
  intro _
  apply (inStep_execute hR _).bind
  intro result
  cases result with
  | ok finished => exact inStep_pure finished
  | error interruption =>
    cases interruption with
    | timedOut => exact inStep_fail _
    | missing => exact inStep_fail _
    | refused problem => exact inStep_fail _

theorem inStep_fetch (access : Access) (name scope : Setting) :
    InStep R (fetch access name scope) (fetch access name scope) := by
  unfold fetch
  apply (inStep_run hR access _ none none).bind
  intro finished
  split
  · dsimp only
    split
    · exact inStep_fail _
    · exact inStep_fail _
  · apply (inStep_ofExcept _).bind
    intro daemonSet
    apply (inStep_log hR.toAlongside _ _).bind
    intro _
    exact inStep_pure daemonSet

theorem inStep_sendFile (access : Access) (name scope : Setting) (body : String) :
    InStep R (sendFile access name scope body) (sendFile access name scope body) := by
  unfold sendFile
  apply (inStep_run hR access _ _ _).bind
  intro finished
  split
  · dsimp only
    split
    · exact inStep_fail _
    · split
      · exact inStep_fail _
      · exact inStep_fail _
  · apply (inStep_log hR.toAlongside _ _).bind
    intro _
    exact inStep_ofExcept _

theorem inStep_replace (access : Access) (daemonSet : Json) :
    InStep R (replace access daemonSet) (replace access daemonSet) := by
  have hwrite (content : Option String) : InStep R (writeFile content) (writeFile content) :=
    inStep_change hR fun _ h ↦ h
  have hremove : InStep R (ExceptT.lift removeFile) (ExceptT.lift removeFile) :=
    inStep_change hR (f := fun transcript ↦ { transcript with files := transcript.files.tail })
      fun _ h ↦ h
  unfold replace
  apply (inStep_ofShape _).bind
  intro name
  apply (inStep_ofShape _).bind
  intro scope
  apply inStep_host_bind
  intro s t h
  rw [Host.sendFault?_congr (hR.room h)]
  cases t.host.sendFault? daemonSet with
  | some fault =>
    apply (hwrite none).bind
    intro _
    exact inStep_fail fault
  | none =>
    apply (hwrite _).bind
    intro _
    exact (inStep_sendFile hR access name scope _).andThen hremove

theorem inStep (access : Access) : (cluster access).InStep R N (cluster access) where
  fetch := inStep_fetch hR access
  fetched name scope s t daemonSet h hfetched := by
    obtain ⟨outcome, after, hrun, ⟨fault, rfl, -⟩ | ⟨call, -, -, -, hoffers⟩⟩ :=
      fetch_cases access name scope s
    · change ((fetch access name scope).runOn s).1 = _ at hfetched
      rw [hrun] at hfetched
      cases hfetched
    · change ((fetch access name scope).runOn s).1 = _ at hfetched
      rw [hrun] at hfetched
      exact (hR.holds h).offers (hoffers daemonSet hfetched)
  replace document _ := inStep_replace hR access document

end Akin

theorem ignoresLog (access : Access) : (cluster access).IgnoresLog :=
  inStep (akin_sameCluster fun _ _ _ _ _ _ _ ↦ trivial) access

/-- Reading leaves the host as it is: that is true of all that is in step with itself from sessions
on one host. -/
theorem host_runOn_fetch (access : Access) (name scope : Setting) (session : Session Transcript) :
    ((fetch access name scope).runOn session).2.host = session.host := by
  have hR : Akin (fun s t : Session Transcript ↦ s.SameCluster t ∧ s.host = session.host)
      (Transcript.Holds fun _ ↦ True) fun _ ↦ True :=
    { noting := fun _ h ↦ ⟨⟨h.1.cluster, h.1.host⟩, h.2⟩
      room := fun h ↦ congrArg Host.room h.1.host
      noteFault? := fun h _ ↦ by rw [h.1.host]
      cluster := fun h ↦ h.1.cluster
      holds := fun _ _ _ _ _ _ _ ↦ trivial
      change := fun f h _ ↦ ⟨⟨congrArg f h.1.cluster, h.1.host⟩, h.2⟩ }
  exact (inStep_fetch hR access name scope session session ⟨⟨rfl, rfl⟩, rfl⟩).2.2

end Kubectl

end AddonUpkeep
