import AddonUpkeep.Proofs.Addon.InStep
import AddonUpkeep.Proofs.Cluster.Clients
import AddonUpkeep.Proofs.Workload.Layers

/-!
# Sessions at a level of the log

A host keeps the entries of its log from a level on.  At a higher level the same work does the same,
and leaves the part of the log from that level on, as long as the host can write what it has to
write for its log.  That is a condition at the lowest level only, where documents are written.
-/

namespace AddonUpkeep

open AddonUpkeep.Json AddonUpkeep.Number

/-- The entries at a level are left when those at a lower one are. -/
theorem Log.atLeast_atLeast {low high : LogLevel} (h : low.rank ≤ high.rank) (log : Log) :
    Log.atLeast (log.atLeast low) high = log.atLeast high := by
  unfold Log.atLeast
  rw [List.filter_filter]
  refine List.filter_congr fun entry _ ↦ ?_
  rw [← Bool.decide_and]
  exact decide_eq_decide.mpr ⟨And.left, fun hhigh ↦ ⟨hhigh, Nat.le_trans h hhigh⟩⟩

theorem LogLevel.eq_debug_of_rank {level : LogLevel} (h : level.rank ≤ LogLevel.debug.rank) :
    level = .debug := by
  cases level with
  | debug => rfl
  | _ => simp [LogLevel.rank] at h

namespace Host

/-- The host with another level of its log. -/
def withLevel (host : Host) (level : LogLevel) : Host := { host with level }

/-- What a host can write for its log, it can write at every higher level. -/
theorem Notes.withLevel {host : Host} {document : Json} (h : host.Notes document)
    {level : LogLevel} (hlevel : host.level.rank ≤ level.rank) :
    (host.withLevel level).Notes document := by
  rw [notes_iff] at h ⊢
  rintro rfl
  exact h (LogLevel.eq_debug_of_rank hlevel)

theorem keepsRenewal_notes (host : Host) : KubeProxy.KeepsRenewal host.Notes :=
  fun _ _ _ _ ↦ KubeProxy.notes_of_renewal

end Host

variable {σ α : Type} {P : σ → Prop} {host : Host} {level : LogLevel}

namespace Session

/-- A session on a host, and the same session at a level of the log. -/
structure CutTo (P : σ → Prop) (host : Host) (level : LogLevel) (session above : Session σ) :
    Prop where
  holds : P session.cluster
  host_eq : session.host = host
  cut : above = ⟨session.cluster, session.log.atLeast level, host.withLevel level⟩

/-- At a level that is not lower than the one of the host, both sessions stay alike. -/
theorem akin_cutTo (h : host.level.rank ≤ level.rank) : Akin (CutTo P host level) P host.Notes where
  noting {session _} log hcut := by
    obtain ⟨hholds, rfl, rfl⟩ := hcut
    refine ⟨hholds, rfl, ?_⟩
    unfold noting
    rw [Log.atLeast_append, Log.atLeast_atLeast h]
    rfl
  room hcut := by
    obtain ⟨-, rfl, rfl⟩ := hcut
    rfl
  noteFault? {_ _ document} hcut hnotes := by
    obtain ⟨-, rfl, rfl⟩ := hcut
    exact Eq.trans hnotes (hnotes.withLevel h).symm
  cluster hcut := by rw [hcut.cut]
  holds hcut := hcut.holds
  change f hcut hP := by
    obtain ⟨-, rfl, rfl⟩ := hcut
    exact ⟨hP, rfl, rfl⟩

end Session

/-- A task that is in step with itself at a level does the same at that level, and leaves the log
from the level on. -/
theorem Task.InStep.runOn_cut {task : Task σ α}
    (h : InStep (Session.CutTo P host level) task task) {state : σ} (hstate : P state) (log : Log) :
    task.runOn ⟨state, log.atLeast level, host.withLevel level⟩ =
        ((task.runOn ⟨state, log, host⟩).1,
          ⟨(task.runOn ⟨state, log, host⟩).2.cluster,
            (task.runOn ⟨state, log, host⟩).2.log.atLeast level, host.withLevel level⟩) ∧
      P (task.runOn ⟨state, log, host⟩).2.cluster := by
  obtain ⟨hsame, hcut⟩ := h ⟨state, log, host⟩ _ ⟨hstate, rfl, rfl⟩
  exact ⟨Prod.ext hsame.symm hcut.cut, hcut.holds⟩

end AddonUpkeep
