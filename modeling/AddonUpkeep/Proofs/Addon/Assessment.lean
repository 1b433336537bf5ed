import AddonUpkeep.Proofs.Cluster.Session
import AddonUpkeep.Proofs.Workload.Layers

/-!
# How an update runs

An update reads the DaemonSet, assesses it, and carries the assessment out.  The assessment depends
on the DaemonSet, the version and the host only.  A dry run and a real one share it.  They differ in
one call, and in the copies that are made for it, for which the host may not have the room.
-/

namespace AddonUpkeep

namespace KubeProxy

variable {σ : Type}

/-- A reading that fails with a fault when there is one. -/
def unlessFault (fault? : Option Fault) : Except Fault Unit :=
  match fault? with
  | some fault => .error fault
  | none => .ok ()

theorem unlessFault_eq_ok_iff {fault? : Option Fault} :
    unlessFault fault? = .ok () ↔ fault? = none := by
  cases fault? <;> simp [unlessFault]

theorem expectedTag_eq_ok_iff {proxy : KubeProxy} {version tag : String} :
    proxy.expectedTag version = .ok tag ↔
      proxy.imageBuild.hasText = true ∧ tag = proxy.tagFor version := by
  unfold expectedTag Setting.checkText
  cases proxy.imageBuild.hasText with
  | true => exact ⟨fun h ↦ ⟨rfl, (Except.ok.inj h).symm⟩, fun h ↦ congrArg Except.ok h.2.symm⟩
  | false => simp [bind, Except.bind]

/-- What an update makes of a DaemonSet: nothing to change, or the document to send. -/
def assess (proxy : KubeProxy) (host : Host) (version : String) (daemonSet : Json) :
    Except Fault (Option Json) := do
  let label ← (archLabelFor version).mapError Fault.version
  let allowed ← (Affinity.hasValue daemonSet label Affinity.arm64).mapError Fault.shape
  let _ ← proxy.containers daemonSet
  proxy.name.checkText
  unlessFault (host.noteFault? daemonSet)
  let image ← proxy.currentImage daemonSet
  let expected ← proxy.expectedTag version
  if image.tag == expected && allowed then return none
  else
    return some (← (renewed daemonSet { image with tag := expected } label allowed).mapError
      Fault.shape)

/-- What keeps the host from making the document that is to be sent. -/
def hindrance (host : Host) (version : String) : Except Fault Json → Option Fault
  | .error _ => none
  | .ok daemonSet => match archLabelFor version with
    | .error _ => none
    | .ok label => match Affinity.hasValue daemonSet label Affinity.arm64 with
      | .error _ => none
      | .ok allowed => copyFault? host daemonSet allowed

theorem hindrance_eq {version label : String} {daemonSet : Json} {allowed : Bool}
    (hlabel : archLabelFor version = .ok label)
    (hallowed : Affinity.hasValue daemonSet label Affinity.arm64 = .ok allowed) (host : Host) :
    hindrance host version (.ok daemonSet) = copyFault? host daemonSet allowed := by
  unfold hindrance
  dsimp only
  rw [hlabel]
  dsimp only
  rw [hallowed]

/-- What keeps a host from making a document is that it has no room for the copies. -/
theorem hindrance_eq_some {host : Host} {version : String} {reading : Except Fault Json}
    {fault : Fault} (h : hindrance host version reading = some fault) :
    fault = .noRoom ∧ ∃ daemonSet, reading = .ok daemonSet ∧ host.room < daemonSet.copyCalls + 1 := by
  cases reading with
  | error problem => cases h
  | ok daemonSet =>
    unfold hindrance at h
    dsimp only at h
    split at h
    · cases h
    · split at h
      · cases h
      · next allowed _ =>
        refine ⟨Host.eq_noRoom_of_copyFault? h, daemonSet, rfl, ?_⟩
        by_contra hroom
        have hroom := Nat.le_of_not_lt hroom
        have hcopies : copyFault? host daemonSet allowed = none := by
          unfold copyFault? Host.copyFault?
          cases allowed with
          | true => exact if_pos (Nat.le_of_succ_le hroom)
          | false => exact if_pos hroom
        cases hcopies.symm.trans h

/-- The settings of the addon that messages and tags show have texts. -/
structure Shows (proxy : KubeProxy) : Prop where
  name : proxy.name.hasText = true
  imageBuild : proxy.imageBuild.hasText = true

/-- What an assessment that succeeds has read. -/
theorem assess_eq_ok {proxy : KubeProxy} {host : Host} {version : String} {daemonSet : Json}
    {assessment : Option Json} (h : proxy.assess host version daemonSet = .ok assessment) :
    proxy.Shows ∧ host.Notes daemonSet ∧
    ∃ label allowed image, archLabelFor version = .ok label ∧
      Affinity.hasValue daemonSet label Affinity.arm64 = .ok allowed ∧
      proxy.currentImage daemonSet = .ok image ∧
      ((assessment = none ∧ image.tag = proxy.tagFor version ∧ allowed = true) ∨
        ∃ updated, assessment = some updated ∧
          ¬ (image.tag = proxy.tagFor version ∧ allowed = true) ∧
          Workload.Alike (fun old new ↦ old = .str image.reference ∧
              new = .str { image with tag := proxy.tagFor version }.reference)
            (Opens label allowed) daemonSet updated) := by
  obtain ⟨label, hlabel, h⟩ := bind_eq_ok_iff.mp h
  obtain ⟨allowed, hallowed, h⟩ := bind_eq_ok_iff.mp h
  obtain ⟨containers, -, h⟩ := bind_eq_ok_iff.mp h
  obtain ⟨_, hname, h⟩ := bind_eq_ok_iff.mp h
  obtain ⟨_, hnotes, h⟩ := bind_eq_ok_iff.mp h
  obtain ⟨image, himage, h⟩ := bind_eq_ok_iff.mp h
  obtain ⟨expected, hexpected, h⟩ := bind_eq_ok_iff.mp h
  obtain ⟨hbuild, rfl⟩ := expectedTag_eq_ok_iff.mp hexpected
  have hlabel := mapError_eq_ok_iff.mp hlabel
  have hallowed := mapError_eq_ok_iff.mp hallowed
  refine ⟨⟨Setting.checkText_eq_ok_iff.mp hname, hbuild⟩, unlessFault_eq_ok_iff.mp hnotes, label,
    allowed, image, hlabel, hallowed, himage, ?_⟩
  obtain ⟨updated, hrenewed, halike⟩ := renewed_ok (proxy.tagFor version) hallowed himage
  split at h
  · next hsame =>
    refine .inl ⟨(Except.ok.inj h).symm, ?_⟩
    simpa using hsame
  · next hdiffers =>
    rw [hrenewed] at h
    refine .inr ⟨updated, (Except.ok.inj h).symm, ?_, halike⟩
    simpa using hdiffers

/-- Reading the DaemonSet: a fault that tells its absence becomes nothing. -/
theorem daemonSet?_runOn (proxy : KubeProxy) (cluster : Cluster σ) (session : Session σ) :
    ∃ log, (proxy.daemonSet? cluster).runOn session =
      match (cluster.fetch proxy.name proxy.scope).runOn session with
      | (.ok daemonSet, after) => (.ok (some daemonSet), after)
      | (.error fault, after) =>
        if fault.kind = .missingResource then
          (proxy.name.checkText.map fun _ ↦ none, after.noting log)
        else (.error fault, after) := by
  unfold daemonSet?
  rw [Task.runOn_bind, Task.runOn_lift, Task.runOn_outcome]
  rcases (cluster.fetch proxy.name proxy.scope).runOn session with ⟨outcome, after⟩
  cases outcome with
  | ok daemonSet => exact ⟨[], rfl⟩
  | error fault =>
    by_cases hkind : fault.kind = .missingResource
    · simp only [hkind, if_true]
      rw [Task.runOn_bind, Task.runOn_ofExcept]
      rcases proxy.name.checkText_cases with hname | hname
      · rw [hname]
        exact ⟨[⟨.warning, _⟩], rfl⟩
      · rw [hname]
        refine ⟨[], ?_⟩
        rw [Session.noting_nil]
        rfl
    · simp only [hkind, if_false]
      exact ⟨[], rfl⟩

/-- Whether the DaemonSet is there or not, reading it leaves the cluster as the command does. -/
theorem cluster_daemonSet? (proxy : KubeProxy) (cluster : Cluster σ)
    (session : Session σ) :
    ((proxy.daemonSet? cluster).runOn session).2.cluster =
      ((cluster.fetch proxy.name proxy.scope).runOn session).2.cluster := by
  obtain ⟨log, hfound⟩ := proxy.daemonSet?_runOn cluster session
  rw [hfound]
  rcases (cluster.fetch proxy.name proxy.scope).runOn session with ⟨outcome, after⟩
  cases outcome with
  | ok daemonSet => rfl
  | error fault =>
    dsimp only
    split
    · rfl
    · rfl

/-- The reading of a DaemonSet that may be absent: a fault that tells so becomes nothing. -/
def ifPresent (proxy : KubeProxy) (reading : Except Fault Json) : Except Fault (Option Json) :=
  match reading with
  | .ok daemonSet => .ok (some daemonSet)
  | .error fault =>
    if fault.kind = .missingResource then proxy.name.checkText.map fun _ ↦ none else .error fault

theorem ifPresent_eq_some_iff {proxy : KubeProxy} {reading : Except Fault Json} {daemonSet : Json} :
    proxy.ifPresent reading = .ok (some daemonSet) ↔ reading = .ok daemonSet := by
  cases reading with
  | ok held => simp [ifPresent]
  | error fault =>
    unfold ifPresent
    dsimp only
    split
    · rcases proxy.name.checkText_cases with hname | hname
      · simp [hname, Except.map]
      · simp [hname, Except.map]
    · simp

theorem outcome_daemonSet? (proxy : KubeProxy) (cluster : Cluster σ) (session : Session σ) :
    ((proxy.daemonSet? cluster).runOn session).1 =
      proxy.ifPresent ((cluster.fetch proxy.name proxy.scope).runOn session).1 := by
  obtain ⟨log, hfound⟩ := proxy.daemonSet?_runOn cluster session
  rw [hfound]
  rcases (cluster.fetch proxy.name proxy.scope).runOn session with ⟨outcome, after⟩
  cases outcome with
  | ok daemonSet => rfl
  | error fault =>
    unfold ifPresent
    dsimp only
    split
    · rfl
    · rfl

/-- Whether a DaemonSet that may be absent passes the check for a version. -/
def passes (proxy : KubeProxy) (version : String) : Option Json → Except Fault Bool
  | none => .ok true
  | some daemonSet => do
    let expected ← proxy.expectedTag version
    return (← proxy.currentImage daemonSet).tag == expected

theorem runOn_isUpToDate (proxy : KubeProxy) (cluster : Cluster σ) (version : String)
    (session : Session σ) :
    (proxy.isUpToDate cluster version).runOn session =
      (((proxy.daemonSet? cluster).runOn session).1.bind (proxy.passes version),
        ((proxy.daemonSet? cluster).runOn session).2) := by
  unfold isUpToDate
  rw [Task.runOn_bind]
  rcases (proxy.daemonSet? cluster).runOn session with ⟨outcome, after⟩
  cases outcome with
  | error fault => rfl
  | ok found =>
    cases found with
    | none => rfl
    | some daemonSet =>
      change _ = (proxy.passes version (some daemonSet), after)
      unfold passes
      dsimp only
      rw [Task.runOn_bind, Task.runOn_ofExcept]
      cases proxy.expectedTag version with
      | error fault => rfl
      | ok expected =>
        dsimp only
        rw [Task.runOn_bind, Task.runOn_ofExcept]
        cases proxy.currentImage daemonSet with
        | error fault => rfl
        | ok image => rfl

/-- A check reads the DaemonSet, and tells whether it passes when it is there. -/
theorem outcome_isUpToDate (proxy : KubeProxy) (cluster : Cluster σ) (version : String)
    (session : Session σ) :
    ((proxy.isUpToDate cluster version).runOn session).1 =
      (proxy.ifPresent ((cluster.fetch proxy.name proxy.scope).runOn session).1).bind
        (proxy.passes version) := by
  rw [runOn_isUpToDate, outcome_daemonSet?]

/-- A check does nothing to the cluster after reading. -/
theorem cluster_isUpToDate (proxy : KubeProxy) (cluster : Cluster σ)
    (version : String) (session : Session σ) :
    ((proxy.isUpToDate cluster version).runOn session).2.cluster =
      ((cluster.fetch proxy.name proxy.scope).runOn session).2.cluster := by
  rw [← cluster_daemonSet?, runOn_isUpToDate]

theorem apply_of_fault {proxy : KubeProxy} {cluster : Cluster σ} {session after : Session σ}
    {fault : Fault} (version : String) (dryRun : Bool)
    (h : (proxy.daemonSet? cluster).runOn session = (.error fault, after)) :
    (proxy.apply cluster version dryRun).runOn session = (.error fault, after) :=
  Task.runOn_bind_of_error h

theorem apply_of_absent {proxy : KubeProxy} {cluster : Cluster σ} {session after : Session σ}
    (version : String) (dryRun : Bool)
    (h : (proxy.daemonSet? cluster).runOn session = (.ok none, after)) :
    (proxy.apply cluster version dryRun).runOn session = (.ok .noChangeNeeded, after) :=
  Task.runOn_bind_of_ok h

/-- How an update ends once its assessment is there: it tells that there is nothing to change, or
that a change is pending, or it makes the document and sends it. -/
def carriesOut (cluster : Cluster σ) (dryRun : Bool) (hindrance : Option Fault)
    (after : Session σ) (found sent : Log) :
    Except Fault (Option Json) → Except Fault Outcome × Session σ
  | .error fault => (.error fault, after.noting found)
  | .ok none => (.ok .noChangeNeeded, after.noting found)
  | .ok (some updated) =>
    if dryRun then (.ok .changePending, after.noting found)
    else match hindrance with
      | some fault => (.error fault, after.noting found)
      | none => match (cluster.replace updated).runOn (after.noting found) with
        | (.error fault, last) => (.error fault, last)
        | (.ok _, last) => (.ok .applied, last.noting sent)

theorem carriesOut_noting (cluster : Cluster σ) (dryRun : Bool) (hindrance : Option Fault)
    (after : Session σ) (before found sent : Log) (assessment : Except Fault (Option Json)) :
    carriesOut cluster dryRun hindrance (after.noting before) found sent assessment =
      carriesOut cluster dryRun hindrance after (before ++ found) sent assessment := by
  unfold carriesOut
  rw [Session.noting_noting]

/-- The part of an update that makes the document and sends it. -/
theorem runOn_send (proxy : KubeProxy) (cluster : Cluster σ) (session : Session σ)
    {daemonSet updated : Json} {image : Image} {label : String} {allowed : Bool}
    (hrenewed : renewed daemonSet image label allowed = .ok updated)
    (hnotes : session.host.Notes updated) :
    ∃ found sent : Log,
      (do
        Task.check (copyFault? (← Task.host) daemonSet allowed)
        let updated ← Task.ofShape (renewed daemonSet image label allowed)
        Addon.noteDocument addonName s!"{proxy.name.text} [updated]" updated
        let _ ← cluster.replace updated
        Addon.note addonName .info s!"{proxy.name.literal} is now up-to-date"
        return .applied : Task σ Outcome).runOn session =
      carriesOut cluster false (copyFault? session.host daemonSet allowed) session found sent
        (.ok (some updated)) := by
  rw [Task.runOn_host_bind, Task.runOn_check_bind, hrenewed]
  unfold carriesOut
  cases copyFault? session.host daemonSet allowed with
  | some fault =>
    refine ⟨[], [], ?_⟩
    rw [Session.noting_nil]
    rfl
  | none =>
    dsimp only
    obtain ⟨found, hnoted⟩ := Task.runOn_noteDocument_bind (σ := σ) addonName
      s!"{proxy.name.text} [updated]" updated (do
        let _ ← cluster.replace updated
        Addon.note addonName .info s!"{proxy.name.literal} is now up-to-date"
        return Outcome.applied) session
    rw [show session.host.noteFault? updated = none from hnotes] at hnoted
    let text := s!"{proxy.name.literal} is now up-to-date"
    refine ⟨found, [⟨.info, s!"[{addonName}] {text}"⟩], ?_⟩
    rw [Task.runOn_bind, Task.runOn_ofShape]
    refine hnoted.trans ?_
    dsimp only
    rw [Task.runOn_bind, if_neg (by decide)]
    rcases (cluster.replace updated).runOn (session.noting found) with ⟨outcome, last⟩
    cases outcome with
    | error fault => rfl
    | ok answer => rfl

/-- What an update does after a DaemonSet was read: it carries the assessment out. -/
theorem apply_of_found {proxy : KubeProxy} {cluster : Cluster σ} {session after : Session σ}
    {daemonSet : Json} (version : String) (dryRun : Bool)
    (h : (proxy.daemonSet? cluster).runOn session = (.ok (some daemonSet), after)) :
    ∃ found sent : Log, (proxy.apply cluster version dryRun).runOn session =
      carriesOut cluster dryRun (hindrance after.host version (.ok daemonSet)) after found sent
        (proxy.assess after.host version daemonSet) := by
  unfold apply assess
  rw [Task.runOn_bind_of_ok h]
  dsimp only
  rw [Task.runOn_bind, Task.runOn_ofExcept]
  cases hlabel : (archLabelFor version).mapError Fault.version with
  | error fault => exact ⟨[], [], by simp [carriesOut]⟩
  | ok label =>
    dsimp only
    rw [Task.runOn_bind, Task.runOn_ofShape, ok_bind]
    cases hallowed : (Affinity.hasValue daemonSet label Affinity.arm64).mapError Fault.shape with
    | error fault => exact ⟨[], [], by simp [carriesOut]⟩
    | ok allowed =>
      have hvalue := mapError_eq_ok_iff.mp hallowed
      rw [hindrance_eq (mapError_eq_ok_iff.mp hlabel) hvalue]
      dsimp only
      rw [ok_bind, Task.runOn_note_when, Task.runOn_bind, Task.runOn_ofExcept]
      generalize (if (!allowed) = true then _ else [] : Log) = missing
      cases proxy.containers daemonSet with
      | error fault => exact ⟨missing, [], rfl⟩
      | ok containers =>
        dsimp only
        rw [ok_bind, Task.runOn_bind, Task.runOn_ofExcept]
        cases proxy.name.checkText with
        | error fault => exact ⟨missing, [], rfl⟩
        | ok _ =>
          dsimp only
          rw [ok_bind]
          obtain ⟨noted, hnoted⟩ := Task.runOn_noteDocument_bind (σ := σ) addonName
            s!"{proxy.name.text} [current]" daemonSet _ (after.noting missing)
          refine (exists_congr fun _ ↦ exists_congr fun _ ↦ by rw [hnoted]).mpr ?_
          rw [Session.host_noting]
          cases hnotes : after.host.noteFault? daemonSet with
          | some fault => exact ⟨missing, [], rfl⟩
          | none =>
            dsimp only
            rw [unlessFault, ok_bind, Task.runOn_bind, Task.runOn_ofExcept, Session.noting_noting]
            cases himage : proxy.currentImage daemonSet with
            | error fault => exact ⟨_, [], rfl⟩
            | ok image =>
              dsimp only
              rw [ok_bind, Task.runOn_bind, Task.runOn_ofExcept]
              cases proxy.expectedTag version with
              | error fault => exact ⟨_, [], rfl⟩
              | ok expected =>
                dsimp only
                obtain ⟨updated, hupdated, halike⟩ := renewed_ok expected hvalue himage
                have hnew : after.host.Notes updated :=
                  notes_of_renewal (halike.mono (fun _ _ h ↦ ⟨_, h.2⟩) fun _ _ ↦ id) hnotes
                rw [ok_bind]
                by_cases hsame : (image.tag == expected && allowed) = true
                · rw [if_pos hsame, if_pos hsame, Task.runOn_note_bind, Task.runOn_note_bind,
                    Session.noting_noting, Session.noting_noting]
                  exact ⟨_, [], rfl⟩
                · rw [if_neg hsame, if_neg hsame]
                  cases dryRun with
                  | true =>
                    rw [if_pos rfl, Task.runOn_note_bind, Session.noting_noting, hupdated]
                    exact ⟨_, [], rfl⟩
                  | false =>
                    rw [if_neg (by decide)]
                    obtain ⟨found, sent, hsend⟩ :=
                      runOn_send proxy cluster (after.noting (missing ++ noted)) hupdated hnew
                    rw [hupdated] at hsend ⊢
                    refine ⟨missing ++ noted ++ found, sent, hsend.trans ?_⟩
                    exact carriesOut_noting cluster false _ after _ found sent _

/-- What an update proposes after a reading: nothing to change, also when there is nothing, or a
document to send. -/
def proposal (proxy : KubeProxy) (host : Host) (version : String) (reading : Except Fault Json) :
    Except Fault (Option Json) := do
  match ← proxy.ifPresent reading with
  | none => return none
  | some daemonSet => proxy.assess host version daemonSet

theorem proposal_ok (proxy : KubeProxy) (host : Host) (version : String) (daemonSet : Json) :
    proxy.proposal host version (.ok daemonSet) = proxy.assess host version daemonSet := rfl

theorem proposal_eq_some_iff {proxy : KubeProxy} {host : Host} {version : String}
    {reading : Except Fault Json} {updated : Json} :
    proxy.proposal host version reading = .ok (some updated) ↔
      ∃ daemonSet, reading = .ok daemonSet ∧
        proxy.assess host version daemonSet = .ok (some updated) := by
  constructor
  · intro h
    obtain ⟨found, hfound, hassess⟩ := bind_eq_ok_iff.mp h
    cases found with
    | none => cases hassess
    | some daemonSet => exact ⟨daemonSet, ifPresent_eq_some_iff.mp hfound, hassess⟩
  · rintro ⟨daemonSet, rfl, hassess⟩
    exact hassess

/-- An update reads, and carries out what it proposes. -/
theorem runOn_apply (proxy : KubeProxy) (cluster : Cluster σ) (version : String) (dryRun : Bool)
    (session : Session σ) :
    let read := (cluster.fetch proxy.name proxy.scope).runOn session
    ∃ found sent : Log, (proxy.apply cluster version dryRun).runOn session =
      carriesOut cluster dryRun (hindrance read.2.host version read.1) read.2 found sent
        (proxy.proposal read.2.host version read.1) := by
  intro read
  obtain ⟨log, hread⟩ := proxy.daemonSet?_runOn cluster session
  change _ = match read with | (.ok daemonSet, after) => _ | (.error fault, after) => _ at hread
  rcases read with ⟨reading, after⟩
  dsimp only at hread ⊢
  cases reading with
  | ok daemonSet => exact apply_of_found version dryRun hread
  | error fault =>
    unfold proposal ifPresent
    dsimp only at hread ⊢
    by_cases hkind : fault.kind = .missingResource
    · rw [if_pos hkind] at hread ⊢
      rcases proxy.name.checkText_cases with hname | hname
      · rw [hname] at hread ⊢
        exact ⟨log, [], apply_of_absent version dryRun hread⟩
      · rw [hname] at hread ⊢
        exact ⟨log, [], apply_of_fault version dryRun hread⟩
    · rw [if_neg hkind] at hread ⊢
      refine ⟨[], [], (apply_of_fault version dryRun hread).trans ?_⟩
      rw [error_bind, carriesOut, Session.noting_nil]

/-- An update that ends well on a DaemonSet that was found has carried its assessment out. -/
theorem assess_of_apply {proxy : KubeProxy} {cluster : Cluster σ} {version : String}
    {dryRun : Bool} {session middle after : Session σ} {daemonSet : Json} {outcome : Outcome}
    (hread : (proxy.daemonSet? cluster).runOn session = (.ok (some daemonSet), middle))
    (h : (proxy.apply cluster version dryRun).runOn session = (.ok outcome, after)) :
    ∃ log, (proxy.assess middle.host version daemonSet = .ok none ∧ outcome = .noChangeNeeded ∧
        after = middle.noting log) ∨
      ∃ updated, proxy.assess middle.host version daemonSet = .ok (some updated) ∧
        ((dryRun = true ∧ outcome = .changePending ∧ after = middle.noting log) ∨
          (dryRun = false ∧ outcome = .applied ∧ ∃ answer last sent,
            (cluster.replace updated).runOn (middle.noting log) = (.ok answer, last) ∧
            after = last.noting sent)) := by
  obtain ⟨found, sent, hrun⟩ := apply_of_found version dryRun hread
  rw [h] at hrun
  refine ⟨found, ?_⟩
  cases hassess : proxy.assess middle.host version daemonSet with
  | error fault =>
    rw [hassess] at hrun
    cases hrun
  | ok assessment =>
    rw [hassess] at hrun
    cases assessment with
    | none =>
      cases hrun
      exact .inl ⟨rfl, rfl, rfl⟩
    | some updated =>
      unfold carriesOut at hrun
      dsimp only at hrun
      refine .inr ⟨updated, rfl, ?_⟩
      cases dryRun with
      | true =>
        cases hrun
        exact .inl ⟨rfl, rfl, rfl⟩
      | false =>
        rw [if_neg (by decide)] at hrun
        cases hhinders : hindrance middle.host version (.ok daemonSet) with
        | some fault =>
          rw [hhinders] at hrun
          cases hrun
        | none =>
          rw [hhinders] at hrun
          dsimp only at hrun
          rcases hreplace : (cluster.replace updated).runOn (middle.noting found) with
            ⟨answer, last⟩
          rw [hreplace] at hrun
          cases answer with
          | error fault => cases hrun
          | ok answer =>
            cases hrun
            exact .inr ⟨rfl, rfl, answer, last, sent, rfl, rfl⟩

end KubeProxy

end AddonUpkeep
