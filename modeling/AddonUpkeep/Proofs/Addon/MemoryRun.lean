import AddonUpkeep.Proofs.Addon.Assessment
import AddonUpkeep.Proofs.Cluster.Memory
import AddonUpkeep.Proofs.Workload.Reopening

/-!
# What a row of operations changes in memory

Operations on a memory change the DaemonSet of the addon only, and in it the tag of the first image
and the values of expressions on an architecture label.  Those get arm64 at most once: the update
that appended it finds it there.
-/

namespace AddonUpkeep

namespace KubeProxy

open AddonUpkeep.Affinity AddonUpkeep.Workload

/-- An image that is kept but for its tag: the text up to the first colon stays. -/
def ImageKept (before after : Json) : Prop :=
  after = before ∨ ∃ old new : String, before = .str old ∧ after = .str new ∧
    new.toList.takeWhile (· ≠ ':') = old.toList.takeWhile (· ≠ ':')

/-- An expression that is kept but for one arm64 behind its values, on an architecture label. -/
def ExpressionKept (before after : Json) : Prop :=
  after = before ∨ ∃ label ∈ [archLabel, betaArchLabel],
    before.field? "key" = some (.str label) ∧ Appended arm64 before after

/-- A DaemonSet that is kept but for its image tag and the architectures it is opened for. -/
def Kept : Json → Json → Prop := Alike ImageKept ExpressionKept

theorem ImageKept.comp {first middle last : Json} (hab : ImageKept first middle)
    (hbc : ImageKept middle last) : ImageKept first last := by
  rcases hab with rfl | ⟨old, new, rfl, rfl, hsame⟩
  · exact hbc
  · rcases hbc with rfl | ⟨old', new', hold, rfl, hsame'⟩
    · exact .inr ⟨old, new, rfl, rfl, hsame⟩
    · cases hold
      exact .inr ⟨old, new', rfl, rfl, hsame'.trans hsame⟩

/-- An update keeps what an earlier one appended: it finds arm64 there and appends nothing. -/
theorem ExpressionKept.comp {label : String} {allowed : Bool} {first middle last : Json}
    (hlabel : label ∈ [archLabel, betaArchLabel]) (hab : ExpressionKept first middle)
    (hbc : Opens label allowed middle last) : ExpressionKept first last := by
  unfold Opens at hbc
  split at hbc
  · next hon =>
    obtain ⟨hmissing, happended⟩ := hbc
    rcases hab with rfl | ⟨label', -, hkey, hmiddle⟩
    · exact .inr ⟨label, hlabel, hon.2, happended⟩
    · obtain ⟨hstays, hlists⟩ := allows_of_appended hkey hmiddle
      have hsame : label' = label := by
        rw [hstays] at hon
        simpa using hon.2
      rw [hsame, hmissing] at hlists
      cases hlists
  · rw [hbc]
    exact hab

/-- What was kept so far is kept by one more update. -/
def KeepsOn (before after : Json) : Prop := ∀ first, Kept first before → Kept first after

theorem archLabelFor_mem {version label : String} (h : archLabelFor version = .ok label) :
    label ∈ [archLabel, betaArchLabel] := by
  obtain ⟨settled, -, hlabel⟩ := bind_eq_ok_iff.mp h
  rw [← Except.ok.inj hlabel]
  cases settled <;> simp

variable {proxy : KubeProxy} {host : Host} {version : String} {daemonSet updated : Json}

theorem keepsOn_of_assess (h : proxy.assess host version daemonSet = .ok (some updated)) :
    KeepsOn daemonSet updated := by
  obtain ⟨-, -, label, allowed, image, hlabel, -, himage, hcases⟩ := assess_eq_ok h
  rcases hcases with ⟨hnone, -⟩ | ⟨updated', hsome, -, halike⟩
  · simp at hnone
  · cases hsome
    obtain ⟨-, hrepository, -⟩ := currentImage_eq_ok himage
    have hkept (old new : Json) (hrel : old = .str image.reference ∧
        new = .str { image with tag := proxy.tagFor version }.reference) :
        ImageKept old new := by
      refine .inr ⟨_, _, hrel.1, hrel.2, ?_⟩
      exact (Image.takeWhile_reference _ hrepository).trans (Image.takeWhile_reference _ hrepository).symm
    intro first hfirst
    refine Alike.comp hfirst halike ?_ ?_
    · exact fun _ _ _ hab hbc ↦ hab.comp (hkept _ _ hbc)
    · exact fun _ _ _ hab hbc ↦ hab.comp (archLabelFor_mem hlabel) hbc

/-- An update leaves a DaemonSet at the place that it names. -/
theorem place_of_assess (h : proxy.assess host version daemonSet = .ok (some updated)) :
    Place.ofDaemonSet updated = Place.ofDaemonSet daemonSet := by
  obtain ⟨-, -, label, allowed, image, -, -, -, hcases⟩ := assess_eq_ok h
  rcases hcases with ⟨hnone, -⟩ | ⟨updated', hsome, -, halike⟩
  · simp at hnone
  · cases hsome
    have hmetadata : updated.field? "metadata" = daemonSet.field? "metadata" :=
      halike.field?_of_ne (by decide)
    unfold Place.ofDaemonSet
    rw [hmetadata]

/-- The place of the DaemonSet that the addon keeps. -/
def place (proxy : KubeProxy) : Place := ⟨proxy.scope, proxy.name⟩

/-- A check only makes a memory remember that it was read. -/
theorem isUpToDate_memory (proxy : KubeProxy) (version : String) (session : Session Memory) :
    ((proxy.isUpToDate Memory.cluster version).runOn session).2.cluster.store =
      session.cluster.store := by
  rw [cluster_isUpToDate, show Memory.cluster.fetch = Memory.fetch from rfl,
    Memory.cluster_runOn_fetch]

/-- A DaemonSet that was found leaves the room to make another of it: it was copied when it was
found. -/
theorem hindrance_of_found {memory : Memory}
    (h : memory.found host proxy.name proxy.scope = .ok daemonSet) (version : String) :
    hindrance host version (.ok daemonSet) = none := by
  cases hhinders : hindrance host version (.ok daemonSet) with
  | none => rfl
  | some fault =>
    obtain ⟨-, held, hheld, hroom⟩ := hindrance_eq_some hhinders
    obtain rfl := Except.ok.inj hheld
    have hcopies := Memory.copies_of_found h
    unfold Host.copyFault? Memory.fetchCalls at hcopies
    rw [if_neg (by omega)] at hcopies
    cases hcopies

theorem hindrance_of_reading {memory : Memory} (version : String) :
    hindrance host version (memory.found host proxy.name proxy.scope) = none := by
  cases hfound : memory.found host proxy.name proxy.scope with
  | error fault => rfl
  | ok daemonSet => exact hindrance_of_found hfound version

/-- What is made of a DaemonSet that was found can be copied as that was. -/
theorem copies_of_assess {memory : Memory} {between : Nat} (hbetween : between ≤ Memory.fetchCalls)
    (hfound : memory.found host proxy.name proxy.scope = .ok daemonSet)
    (hassess : proxy.assess host version daemonSet = .ok (some updated)) :
    host.copyFault? between updated = none := by
  obtain ⟨-, -, label, allowed, image, -, -, -, hcases⟩ := assess_eq_ok hassess
  rcases hcases with ⟨hnone, -⟩ | ⟨updated', hsome, -, halike⟩
  · cases hnone
  · cases hsome
    apply copies_of_renewal hbetween (halike.mono (fun _ _ h ↦ ⟨_, h.2⟩) fun _ _ ↦ id)
    have hcopies := Memory.copies_of_found hfound
    unfold Host.copyFault? at hcopies ⊢
    split at hcopies
    · next hroom => exact if_pos (by omega)
    · cases hcopies

/-- How an update of a memory ends.  The memory remembers that it was read; it changes when there is
a document to send, the update is in earnest and replacing does not fail. -/
theorem runOn_apply_memory (proxy : KubeProxy) (version : String) (dryRun : Bool)
    (session : Session Memory) :
    let memory := session.cluster
    let host := session.host
    let reading := memory.found host proxy.name proxy.scope
    let read := { memory with reads := memory.reads ++ [(proxy.name, proxy.scope)] }
    ∃ log, (proxy.apply Memory.cluster version dryRun).runOn session =
      match proxy.proposal host version reading with
      | .error fault => (.error fault, ⟨read, log, host⟩)
      | .ok none => (.ok .noChangeNeeded, ⟨read, log, host⟩)
      | .ok (some updated) =>
        if dryRun then (.ok .changePending, ⟨read, log, host⟩)
        else match memory.updateFault with
          | some fault => (.error fault, ⟨read, log, host⟩)
          | none => (.ok .applied,
            ⟨{ read.put updated with updates := memory.updates ++ [updated] }, log, host⟩) := by
  dsimp only
  obtain ⟨found, sent, hrun⟩ := runOn_apply proxy Memory.cluster version dryRun session
  rw [show Memory.cluster.fetch = Memory.fetch from rfl, Memory.runOn_fetch] at hrun
  rw [hrun]
  cases hproposal : proxy.proposal session.host version
      (session.cluster.found session.host proxy.name proxy.scope) with
  | error fault => exact ⟨_, rfl⟩
  | ok proposed =>
    cases proposed with
    | none => exact ⟨_, rfl⟩
    | some updated =>
      cases dryRun with
      | true => exact ⟨_, rfl⟩
      | false =>
        obtain ⟨daemonSet, hfound, hassess⟩ := proposal_eq_some_iff.mp hproposal
        have hcopies : session.host.copyFault? Memory.replaceCalls updated = none :=
          copies_of_assess (by decide) hfound hassess
        rw [hfound, hindrance_of_found hfound]
        simp only [carriesOut, Bool.false_eq_true, if_false]
        rw [show Memory.cluster.replace = Memory.replace from rfl, Memory.runOn_replace,
          Session.cluster_noting, Session.host_noting]
        dsimp only
        cases session.cluster.updateFault with
        | some fault => exact ⟨_, rfl⟩
        | none =>
          dsimp only
          rw [hcopies]
          exact ⟨_, rfl⟩

/-- An update leaves the host. -/
theorem host_apply_memory (proxy : KubeProxy) (version : String) (dryRun : Bool)
    (session : Session Memory) :
    ((proxy.apply Memory.cluster version dryRun).runOn session).2.host = session.host := by
  obtain ⟨log, hrun⟩ := runOn_apply_memory proxy version dryRun session
  rw [hrun]
  dsimp only
  split
  · rfl
  · rfl
  · split
    · rfl
    · split
      · rfl
      · rfl

/-- An update leaves the store, or puts back the DaemonSet that it read with the changes that an
assessment asks for. -/
theorem apply_memory (proxy : KubeProxy) (version : String) (dryRun : Bool)
    (session : Session Memory) :
    ((proxy.apply Memory.cluster version dryRun).runOn session).2.cluster.store =
        session.cluster.store ∨
      ∃ daemonSet updated, session.cluster.store.get? proxy.place = some daemonSet ∧
        proxy.assess session.host version daemonSet = .ok (some updated) ∧
        ((proxy.apply Memory.cluster version dryRun).runOn session).2.cluster.store =
          session.cluster.store.put (.ofDaemonSet updated) updated := by
  obtain ⟨log, hrun⟩ := runOn_apply_memory proxy version dryRun session
  rw [hrun]
  cases hproposal : proxy.proposal session.host version
      (session.cluster.found session.host proxy.name proxy.scope) with
  | error fault => exact .inl rfl
  | ok proposed =>
    cases proposed with
    | none => exact .inl rfl
    | some updated =>
      obtain ⟨daemonSet, hfound, hassess⟩ := proposal_eq_some_iff.mp hproposal
      cases dryRun with
      | true => exact .inl rfl
      | false =>
        dsimp only
        cases session.cluster.updateFault with
        | some fault => exact .inl rfl
        | none => exact .inr ⟨daemonSet, updated, Memory.get?_of_found hfound, hassess, rfl⟩

/-- What an update in earnest that succeeds leaves to be found: what it found itself when there was
nothing to change, and otherwise what it sent. -/
theorem found_of_apply {proxy : KubeProxy} {version : String} {session : Session Memory}
    {outcome : Outcome} (hfiled : Memory.Filed session.cluster.store)
    (hok : ((proxy.apply Memory.cluster version false).runOn session).1 = .ok outcome) :
    let before := session.cluster.found session.host proxy.name proxy.scope
    let after := ((proxy.apply Memory.cluster version false).runOn session).2.cluster
    (outcome = .noChangeNeeded ∧ proxy.proposal session.host version before = .ok none ∧
        after.found session.host proxy.name proxy.scope = before) ∨
      ∃ daemonSet sent, outcome = .applied ∧ before = .ok daemonSet ∧
        proxy.assess session.host version daemonSet = .ok (some sent) ∧
        after.found session.host proxy.name proxy.scope = .ok sent ∧ after.updateFault = none := by
  intro before after
  obtain ⟨log, hrun⟩ := runOn_apply_memory proxy version false session
  have hafter : after = _ := congrArg (·.2.cluster) hrun
  rw [hafter]
  rw [hrun] at hok
  cases hproposal : proxy.proposal session.host version
      (session.cluster.found session.host proxy.name proxy.scope) with
  | error fault =>
    rw [hproposal] at hok
    cases hok
  | ok proposed =>
    rw [hproposal] at hok
    cases proposed with
    | none =>
      cases hok
      exact .inl ⟨rfl, rfl, Memory.found_congr rfl rfl _ proxy.name proxy.scope⟩
    | some sent =>
      obtain ⟨daemonSet, hfound, hassess⟩ := proposal_eq_some_iff.mp hproposal
      simp only [Bool.false_eq_true, if_false] at hok ⊢
      cases hfault : session.cluster.updateFault with
      | some fault =>
        rw [hfault] at hok
        cases hok
      | none =>
        rw [hfault] at hok
        cases hok
        refine .inr ⟨daemonSet, sent, rfl, hfound, hassess, ?_, rfl⟩
        exact Memory.found_of_put hfiled hfound (place_of_assess hassess)
          (copies_of_assess (Nat.le_refl _) hfound hassess) rfl rfl

/-- What a caller can do with the addon and its memory. -/
inductive Operation where
  | isUpToDate (version : String)
  | check (version : String)
  | apply (version : String) (dryRun : Bool)
  | run (version : String) (dryRun : Bool)
  | failReads (fault : Option Fault)
  | failUpdates (fault : Option Fault)

/-- The session behind one operation, whatever its outcome. -/
def Operation.on (proxy : KubeProxy) (session : Session Memory) : Operation → Session Memory
  | isUpToDate version => (((proxy.addon Memory.cluster).isUpToDate version).runOn session).2
  | check version => (((proxy.addon Memory.cluster).check version).runOn session).2
  | apply version dryRun => (((proxy.addon Memory.cluster).apply version dryRun).runOn session).2
  | run version dryRun => (((proxy.addon Memory.cluster).run version dryRun).runOn session).2
  | failReads fault => { session with cluster := { session.cluster with getFault := fault } }
  | failUpdates fault => { session with cluster := { session.cluster with updateFault := fault } }

/-- One operation leaves the store, or makes one update in it. -/
theorem Operation.on_cases (proxy : KubeProxy) (operation : Operation) (session : Session Memory) :
    (operation.on proxy session).cluster.store = session.cluster.store ∨
      ∃ version daemonSet updated, session.cluster.store.get? proxy.place = some daemonSet ∧
        proxy.assess session.host version daemonSet = .ok (some updated) ∧
        (operation.on proxy session).cluster.store =
          session.cluster.store.put (.ofDaemonSet updated) updated := by
  cases operation with
  | isUpToDate version => exact .inl (isUpToDate_memory proxy version session)
  | check version =>
    left
    change (((proxy.addon Memory.cluster).check version).runOn session).2.cluster.store = _
    rw [Addon.check, Addon.cluster_report]
    exact isUpToDate_memory proxy version session
  | apply version dryRun =>
    rcases apply_memory proxy version dryRun session with hsame | hput
    · exact .inl hsame
    · exact .inr ⟨version, hput⟩
  | run version dryRun =>
    obtain ⟨log, hrun⟩ := (proxy.addon Memory.cluster).cluster_run version dryRun session
    have hsame : ((Operation.run version dryRun).on proxy session).cluster =
        ((proxy.apply Memory.cluster version dryRun).runOn (session.noting log)).2.cluster := hrun
    rw [hsame]
    rcases apply_memory proxy version dryRun (session.noting log) with hsame | hput
    · exact .inl hsame
    · exact .inr ⟨version, hput⟩
  | failReads fault => exact .inl rfl
  | failUpdates fault => exact .inl rfl

/-- One operation keeps the store filed, and changes the DaemonSet of the addon only. -/
theorem Operation.on_keeps {proxy : KubeProxy} {session : Session Memory} (operation : Operation)
    (h : Memory.Filed session.cluster.store) :
    Memory.Filed (operation.on proxy session).cluster.store ∧
      Memory.AlikeBut proxy.place KeepsOn session.cluster.store
        (operation.on proxy session).cluster.store := by
  have hrefl : ∀ daemonSet, KeepsOn daemonSet daemonSet := fun _ _ hfirst ↦ hfirst
  rcases operation.on_cases proxy session with
    hsame | ⟨version, daemonSet, updated, hget, hassess, hput⟩
  · rw [hsame]
    exact ⟨h, Memory.AlikeBut.refl hrefl _⟩
  · rw [hput]
    refine ⟨h.put updated, ?_⟩
    exact h.alikeBut_put hget (place_of_assess hassess) (keepsOn_of_assess hassess) hrefl

/-- What one operation keeps, a row of operations keeps. -/
theorem operations_keep_filed {proxy : KubeProxy} (operations : List Operation)
    (session : Session Memory) (h : Memory.Filed session.cluster.store) :
    Memory.AlikeBut proxy.place KeepsOn session.cluster.store
      (operations.foldl (Operation.on proxy) session).cluster.store := by
  induction operations generalizing session with
  | nil => exact Memory.AlikeBut.refl (fun _ _ hfirst ↦ hfirst) _
  | cons operation operations ih =>
    obtain ⟨hfiled, hstep⟩ := operation.on_keeps h
    refine hstep.comp (ih _ hfiled) ?_
    exact fun _ _ _ hab hbc first hfirst ↦ hbc first (hab first hfirst)

/-- However many operations run on a memory, with faults or without, its store holds the same keys,
every DaemonSet but the one of the addon is the one it was, and that one differs at most in the tag
of its first image and in expressions on an architecture label that list arm64 once more. -/
theorem operations_keep (proxy : KubeProxy) (edits : List Memory.Edit) (memory : Memory)
    (log : Log) (host : Host) (operations : List Operation) :
    let start := (Memory.edited edits).store
    let session : Session Memory := ⟨{ memory with store := start }, log, host⟩
    let last := (operations.foldl (Operation.on proxy) session).cluster
    last.store.keys = start.keys ∧ Memory.AlikeBut proxy.place Kept start last.store := by
  intro start session last
  have hrun : Memory.AlikeBut proxy.place KeepsOn start last.store :=
    operations_keep_filed operations session (Memory.filed_edited edits)
  refine ⟨hrun.keys_eq, hrun.mono fun before after h ↦ h before ?_⟩
  exact Alike.refl (fun _ ↦ .inl rfl) (fun _ ↦ .inl rfl) before

end KubeProxy

end AddonUpkeep
