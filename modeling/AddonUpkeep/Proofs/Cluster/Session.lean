import AddonUpkeep.Addon.Basic

/-!
# Running tasks on a session

A task turns a session into an outcome and a later session.  A row of tasks runs one after the other
up to the first fault.
-/

namespace AddonUpkeep

variable {σ α β : Type}

/-- The outcome of a task on a session, and the session behind it. -/
def Task.runOn (task : Task σ α) (session : Session σ) : Except Fault α × Session σ :=
  task.run.run session

/-- The value of some work on a session, and the session behind it. -/
def Work.runOn (work : Work σ α) (session : Session σ) : α × Session σ := work.run session

@[simp]
theorem Session.cluster_noting (session : Session σ) (log : Log) :
    (session.noting log).cluster = session.cluster := rfl

@[simp]
theorem Session.host_noting (session : Session σ) (log : Log) :
    (session.noting log).host = session.host := rfl

@[simp]
theorem Session.noting_nil (session : Session σ) : session.noting [] = session := by
  simp [Session.noting, Log.atLeast]

@[simp]
theorem Session.noting_noting (session : Session σ) (first second : Log) :
    (session.noting first).noting second = session.noting (first ++ second) := by
  simp [Session.noting]

namespace Task

@[simp]
theorem runOn_pure (value : α) (session : Session σ) :
    (pure value : Task σ α).runOn session = (.ok value, session) := rfl

theorem runOn_bind (task : Task σ α) (next : α → Task σ β) (session : Session σ) :
    (task >>= next : Task σ β).runOn session = match task.runOn session with
      | (.ok value, after) => (next value).runOn after
      | (.error fault, after) => (.error fault, after) := by
  change ExceptT.bindCont next (task.runOn session).1 (task.runOn session).2 = _
  rcases task.runOn session with ⟨outcome, after⟩
  cases outcome <;> rfl

/-- What follows a task that succeeds runs on the session that it leaves. -/
theorem runOn_bind_of_ok {task : Task σ α} {next : α → Task σ β} {session after : Session σ}
    {value : α} (h : task.runOn session = (.ok value, after)) :
    (task >>= next : Task σ β).runOn session = (next value).runOn after := by
  rw [runOn_bind, h]

theorem runOn_bind_of_error {task : Task σ α} {next : α → Task σ β} {session after : Session σ}
    {fault : Fault} (h : task.runOn session = (.error fault, after)) :
    (task >>= next : Task σ β).runOn session = (.error fault, after) := by
  rw [runOn_bind, h]

@[simp]
theorem runOn_lift (work : Work σ α) (session : Session σ) :
    runOn (ExceptT.lift work) session =
      (.ok (work.runOn session).1, (work.runOn session).2) := rfl

@[simp]
theorem runOn_outcome (task : Task σ α) (session : Session σ) :
    task.outcome.runOn session = task.runOn session := rfl

@[simp]
theorem runOn_log (level : LogLevel) (text : String) (session : Session σ) :
    (log level text).runOn session = (.ok (), session.noting [⟨level, text⟩]) := rfl

@[simp]
theorem runOn_note_bind (addon : String) (level : LogLevel) (text : String) (next : Task σ α)
    (session : Session σ) :
    (do Addon.note addon level text; next : Task σ α).runOn session =
      next.runOn (session.noting [⟨level, s!"[{addon}] {text}"⟩]) := rfl

/-- An entry that is made on a condition stands before what follows in both cases. -/
theorem runOn_note_when (condition : Bool) (addon : String) (level : LogLevel) (text : String)
    (next : Task σ α) (session : Session σ) :
    (if condition then (do Addon.note addon level text; next) else next : Task σ α).runOn session =
      next.runOn (session.noting (if condition then [⟨level, s!"[{addon}] {text}"⟩] else [])) := by
  cases condition with
  | true => rw [if_pos rfl, if_pos rfl, runOn_note_bind]
  | false => rw [if_neg (by decide), if_neg (by decide), Session.noting_nil]

@[simp]
theorem runOn_cluster (session : Session σ) :
    (cluster : Task σ σ).runOn session = (.ok session.cluster, session) := rfl

@[simp]
theorem runOn_host (session : Session σ) :
    (host : Task σ Host).runOn session = (.ok session.host, session) := rfl

@[simp]
theorem runOn_host_bind (next : Host → Task σ α) (session : Session σ) :
    (host >>= next : Task σ α).runOn session = (next session.host).runOn session := rfl

/-- What a task that only looks for a fault gives. -/
@[simp]
theorem runOn_check_bind (fault? : Option Fault) (next : Task σ α) (session : Session σ) :
    (do check fault?; next : Task σ α).runOn session =
      match fault? with
      | some fault => (.error fault, session)
      | none => next.runOn session := by
  cases fault? <;> rfl

/-- A document is written to the log unless the host cannot write it. -/
theorem runOn_noteDocument_bind (addon label : String) (document : Json) (next : Task σ α)
    (session : Session σ) :
    ∃ log, (do Addon.noteDocument addon label document; next : Task σ α).runOn session =
      match session.host.noteFault? document with
      | some fault => (.error fault, session)
      | none => next.runOn (session.noting log) := by
  unfold Addon.noteDocument
  rw [runOn_bind, runOn_host_bind, runOn_check_bind]
  cases session.host.noteFault? document with
  | some fault => exact ⟨[], rfl⟩
  | none => exact ⟨[⟨.debug, _⟩], rfl⟩

@[simp]
theorem runOn_change (f : σ → σ) (session : Session σ) :
    (change f).runOn session = (.ok (), { session with cluster := f session.cluster }) := rfl

@[simp]
theorem runOn_ofExcept (reading : Except Fault α) (session : Session σ) :
    (ofExcept reading : Task σ α).runOn session = (reading, session) := by
  cases reading <;> rfl

@[simp]
theorem runOn_ofShape (reading : Except ShapeProblem α) (session : Session σ) :
    (ofShape reading : Task σ α).runOn session = (reading.mapError Fault.shape, session) := by
  cases reading <;> rfl

/-- The work behind a task is done whatever its outcome, which stays. -/
theorem runOn_andThen (task : Task σ α) (last : Work σ Unit) (session : Session σ) :
    (task.andThen last).runOn session =
      ((task.runOn session).1, (last.runOn (task.runOn session).2).2) := by
  change (ofExcept (task.runOn session).1).runOn (last.runOn (task.runOn session).2).2 = _
  rw [runOn_ofExcept]

end Task

namespace Work

@[simp]
theorem runOn_pure (value : α) (session : Session σ) :
    (pure value : Work σ α).runOn session = (value, session) := rfl

theorem runOn_bind (work : Work σ α) (next : α → Work σ β) (session : Session σ) :
    (work >>= next : Work σ β).runOn session =
      (next (work.runOn session).1).runOn (work.runOn session).2 := rfl

@[simp]
theorem runOn_log (level : LogLevel) (text : String) (session : Session σ) :
    (log level text : Work σ Unit).runOn session = ((), session.noting [⟨level, text⟩]) := rfl

end Work

/-- A report ends with the outcome of its task, and leaves the cluster as the task does. -/
theorem Addon.runOn_report (addon complaint : String) (task : Task σ α) (session : Session σ) :
    ∃ log, (Addon.report addon complaint task).runOn session =
      (⟨addon, (task.runOn session).1.mapError Fault.message⟩,
        (task.runOn session).2.noting log) := by
  unfold report
  rw [Work.runOn_bind, Task.runOn_outcome]
  rcases task.runOn session with ⟨outcome, after⟩
  cases outcome with
  | ok value =>
    refine ⟨[], ?_⟩
    rw [Session.noting_nil]
    rfl
  | error fault => exact ⟨_, rfl⟩

theorem Addon.cluster_report (addon complaint : String) (task : Task σ α) (session : Session σ) :
    ((Addon.report addon complaint task).runOn session).2.cluster =
      (task.runOn session).2.cluster := by
  obtain ⟨log, hreport⟩ := runOn_report addon complaint task session
  rw [hreport, Session.cluster_noting]

/-- A run notes that it starts, and ends as the update of the addon does. -/
theorem Addon.runOn_run (addon : Addon σ) (version : String) (dryRun : Bool)
    (session : Session σ) :
    ∃ before behind, (addon.run version dryRun).runOn session =
      (⟨addon.name,
          ((addon.apply version dryRun).runOn (session.noting before)).1.mapError Fault.message⟩,
        ((addon.apply version dryRun).runOn (session.noting before)).2.noting behind) := by
  unfold run
  rw [Work.runOn_bind, Work.runOn_log]
  obtain ⟨behind, hreport⟩ := runOn_report addon.name "Update failed"
    (addon.apply version dryRun) (session.noting _)
  exact ⟨_, behind, hreport⟩

/-- A run leaves the cluster as the update of the addon does. -/
theorem Addon.cluster_run (addon : Addon σ) (version : String) (dryRun : Bool)
    (session : Session σ) :
    ∃ log, ((addon.run version dryRun).runOn session).2.cluster =
      ((addon.apply version dryRun).runOn (session.noting log)).2.cluster := by
  obtain ⟨before, behind, hrun⟩ := addon.runOn_run version dryRun session
  exact ⟨before, by rw [hrun, Session.cluster_noting]⟩

end AddonUpkeep
