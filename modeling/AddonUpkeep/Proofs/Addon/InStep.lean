import AddonUpkeep.Addon.Summary
import AddonUpkeep.Proofs.Cluster.InStep
import AddonUpkeep.Proofs.Workload.Renewal

/-!
# Addons on two clusters in step

The addon knows a cluster by its commands only, and of its host the room and whether it can write a
document for its log.  On two clusters that answer in step, it checks and updates in step, and so do
the operations by name.
-/

namespace AddonUpkeep

variable {α σ τ : Type} {R : Session σ → Session τ → Prop} {N : Json → Prop} {first : Cluster σ}
  {second : Cluster τ}

namespace KubeProxy

open AddonUpkeep.Workload

/-- What keeps a host from making a renewed DaemonSet depends on its room only. -/
theorem copyFault?_congr {host other : Host} (h : host.room = other.room) (daemonSet : Json)
    (allowed : Bool) : copyFault? host daemonSet allowed = copyFault? other daemonSet allowed := by
  exact Host.copyFault?_congr h _ _

/-- A renewal of one of the given documents is one of them. -/
def KeepsRenewal (N : Json → Prop) : Prop :=
  ∀ label allowed before after,
    Alike (fun _ new ↦ ∃ text, new = .str text) (Opens label allowed) before after → N before →
      N after

theorem inStep_daemonSet? (hR : Alongside R N) (h : first.InStep R N second) (proxy : KubeProxy) :
    Task.InStep R (proxy.daemonSet? first) (proxy.daemonSet? second) := by
  unfold daemonSet?
  apply (h.fetch proxy.name proxy.scope).outcome.bind
  intro outcome
  cases outcome with
  | ok daemonSet => exact Task.inStep_pure (some daemonSet)
  | error fault =>
    dsimp only
    split
    · apply (Task.inStep_ofExcept _).bind
      intro _
      apply (Task.inStep_note hR _ _ _).bind
      intro _
      exact Task.inStep_pure none
    · exact Task.inStep_fail fault

/-- A DaemonSet that is there was fetched. -/
theorem fetched_of_daemonSet? (proxy : KubeProxy) {session : Session σ} {daemonSet : Json}
    (h : ((proxy.daemonSet? first).runOn session).1 = .ok (some daemonSet)) :
    ((first.fetch proxy.name proxy.scope).runOn session).1 = .ok daemonSet := by
  unfold daemonSet? at h
  rw [Task.runOn_bind, Task.runOn_lift, Task.runOn_outcome] at h
  rcases hfetch : (first.fetch proxy.name proxy.scope).runOn session with ⟨outcome, after⟩
  rw [hfetch] at h
  cases outcome with
  | ok fetched =>
    obtain rfl := Option.some.inj (Except.ok.inj h)
    rfl
  | error fault =>
    dsimp only at h
    split at h
    · rw [Task.runOn_bind, Task.runOn_ofExcept] at h
      rcases proxy.name.checkText_cases with hname | hname
      · rw [hname] at h
        cases h
      · rw [hname] at h
        cases h
    · cases h

theorem inStep_isUpToDate (hR : Alongside R N) (h : first.InStep R N second) (proxy : KubeProxy)
    (version : String) :
    Task.InStep R (proxy.isUpToDate first version) (proxy.isUpToDate second version) := by
  unfold isUpToDate
  apply (inStep_daemonSet? hR h proxy).bind
  intro daemonSet?
  cases daemonSet? with
  | none => exact Task.inStep_pure true
  | some daemonSet =>
    apply (Task.inStep_ofExcept _).bind
    intro expected
    apply (Task.inStep_ofExcept _).bind
    intro image
    exact Task.inStep_pure _

theorem inStep_apply (hR : Alongside R N) (hN : KeepsRenewal N) (h : first.InStep R N second)
    (proxy : KubeProxy) (version : String) (dryRun : Bool) :
    Task.InStep R (proxy.apply first version dryRun) (proxy.apply second version dryRun) := by
  unfold apply
  apply (inStep_daemonSet? hR h proxy).bind_of (Q := fun daemonSet? ↦ ∀ d ∈ daemonSet?, N d)
  · rintro s t daemonSet? hst hfound daemonSet rfl
    exact h.fetched _ _ s t daemonSet hst (proxy.fetched_of_daemonSet? hfound)
  intro daemonSet? hdaemonSet?
  cases daemonSet? with
  | none => exact Task.inStep_pure _
  | some daemonSet =>
    have hdaemonSet := hdaemonSet? daemonSet rfl
    apply (Task.inStep_ofExcept _).bind
    intro label
    apply Task.inStep_ofShape_bind
    intro allowed hallowed
    apply Task.InStep.note_when hR
    apply (Task.inStep_ofExcept _).bind
    intro _
    apply (Task.inStep_ofExcept _).bind
    intro _
    apply (Task.inStep_noteDocument hR _ _ hdaemonSet).bind
    intro _
    apply Task.inStep_ofExcept_bind
    intro image himage
    apply (Task.inStep_ofExcept _).bind
    intro expected
    dsimp only
    split
    · apply (Task.inStep_note hR _ _ _).bind
      intro _
      apply (Task.inStep_note hR _ _ _).bind
      intro _
      exact Task.inStep_pure _
    · split
      · apply (Task.inStep_note hR _ _ _).bind
        intro _
        exact Task.inStep_pure _
      · apply Task.inStep_host_bind
        intro s t hst
        rw [copyFault?_congr (hR.room hst)]
        apply (Task.inStep_check _).bind
        intro _
        apply Task.inStep_ofShape_bind
        intro updated hupdated
        obtain ⟨_, hrenewed, halike⟩ := renewed_ok expected hallowed himage
        obtain rfl := Except.ok.inj (hupdated.symm.trans hrenewed)
        have hnew := hN _ _ _ _ (halike.mono (fun _ _ h ↦ ⟨_, h.2⟩) fun _ _ ↦ id) hdaemonSet
        apply (Task.inStep_noteDocument hR _ _ hnew).bind
        intro _
        apply (h.replace updated hnew).bind
        intro _
        apply (Task.inStep_note hR _ _ _).bind
        intro _
        exact Task.inStep_pure _

end KubeProxy

namespace Addon

open AddonUpkeep.Work

/-- What two addons do is in step. -/
structure InStep (R : Session σ → Session τ → Prop) (one : Addon σ) (two : Addon τ) : Prop where
  name : one.name = two.name
  isUpToDate : ∀ version, Task.InStep R (one.isUpToDate version) (two.isUpToDate version)
  apply : ∀ version dryRun, Task.InStep R (one.apply version dryRun) (two.apply version dryRun)

theorem inStep_report (hR : Alongside R N) {task : Task σ α} {task' : Task τ α}
    (h : Task.InStep R task task') (addon complaint : String) :
    Work.InStep R (report addon complaint task) (report addon complaint task') := by
  unfold report
  apply Work.InStep.bind h.outcome
  intro outcome
  cases outcome with
  | ok value => exact inStep_pure _
  | error fault =>
    apply (inStep_log hR _ _).bind
    intro _
    exact inStep_pure _

variable {one : Addon σ} {two : Addon τ}

theorem InStep.check (hR : Alongside R N) (h : one.InStep R two) (version : String) :
    Work.InStep R (one.check version) (two.check version) := by
  unfold Addon.check
  rw [h.name]
  exact inStep_report hR (h.isUpToDate version) _ _

theorem InStep.run (hR : Alongside R N) (h : one.InStep R two) (version : String) (dryRun : Bool) :
    Work.InStep R (one.run version dryRun) (two.run version dryRun) := by
  unfold Addon.run
  rw [h.name]
  apply (inStep_log hR _ _).bind
  intro _
  exact inStep_report hR (h.apply version dryRun) _ _

end Addon

theorem KubeProxy.inStep_addon (hR : Alongside R N) (hN : KeepsRenewal N)
    (h : first.InStep R N second) (proxy : KubeProxy) :
    (proxy.addon first).InStep R (proxy.addon second) :=
  ⟨rfl, inStep_isUpToDate hR h proxy, inStep_apply hR hN h proxy⟩

section Named

variable (hR : Alongside R N) (hN : KubeProxy.KeepsRenewal N) (h : first.InStep R N second)
  (settings : Table String (Option Settings))

include hR

theorem Summary.inStep_resolve (names : List String) :
    Work.InStep R (resolve names : Work σ (Resolution α)) (resolve names) := by
  apply Work.inStep_foldlM
  intro resolution name
  unfold Resolution.add
  cases Catalog.identify name with
  | ok kind =>
    dsimp only
    split
    · exact Work.inStep_pure _
    · exact Work.inStep_pure _
  | error fault =>
    apply (Work.inStep_log hR _ _).bind
    intro _
    exact Work.inStep_pure _

include hN h

theorem Catalog.inStep_addon (kind : AddonKind) :
    (addon settings first kind).InStep R (addon settings second kind) := by
  cases kind with
  | kubeProxy => exact KubeProxy.inStep_addon hR hN h _

namespace Summary

open AddonUpkeep.Work

theorem inStep_check (names : List String) (version : String) :
    Work.InStep R (check settings first names version) (check settings second names version) := by
  unfold check
  split
  · exact inStep_pure _
  · apply (inStep_resolve hR names).bind
    intro resolution
    refine InStep.bind (inStep_foldlM (fun settled kind ↦ ?_) _ _) fun settled ↦ inStep_pure _
    apply ((Catalog.inStep_addon hR hN h settings kind).check hR version).bind
    intro result
    exact inStep_pure _

theorem inStep_updateOne (version : String) (dryRun : Bool) (settled : Resolution Outcome)
    (kind : AddonKind) :
    Work.InStep R (updateOne settings first version dryRun settled kind)
      (updateOne settings second version dryRun settled kind) := by
  unfold updateOne
  apply (inStep_log hR _ _).bind
  intro _
  apply ((Catalog.inStep_addon hR hN h settings kind).run hR version dryRun).bind
  intro result
  exact (inStep_pure _).log_when hR _ _ _

theorem inStep_update (names : List String) (version : String) (dryRun : Bool) :
    Work.InStep R (update settings first names version dryRun)
      (update settings second names version dryRun) := by
  unfold update
  split
  · exact inStep_pure _
  · apply (inStep_resolve hR names).bind
    intro resolution
    apply (inStep_log hR _ _).bind
    intro _
    refine InStep.bind (inStep_foldlM ?_ _ _) fun settled ↦ inStep_pure _
    exact inStep_updateOne hR hN h settings version dryRun

end Summary

end Named

end AddonUpkeep
