import AddonUpkeep.Proofs.Cluster.Host
import AddonUpkeep.Proofs.Cluster.Replacing
import AddonUpkeep.Proofs.Json.Limits

/-!
# What kubectl can make of a command

Whatever is replied, a command gives an object or the fault of a command, with two exceptions: an
output that reaches a limit of the reader ends in a fault of its own, and so does a command that the
system does not start.  A DaemonSet that cannot be written is not sent at all.
-/

namespace AddonUpkeep

open AddonUpkeep.Json AddonUpkeep.Text

/-- The fault is that of a command, or a special case of it. -/
def Fault.IsOfCommand (fault : Fault) : Prop := FaultKind.command ∈ fault.kind.lineage

theorem Fault.isOfCommand_iff {fault : Fault} :
    fault.IsOfCommand ↔ fault.kind ∈ [.command, .missingResource, .conflict] := by
  unfold IsOfCommand
  cases fault.kind <;> decide

namespace Kubectl

variable {name scope : String} {result : Except Interruption Finished} {finished : Finished}
  {outcome : Except Fault Json} {fault : Fault}

/-- A run ended well, and its output holds an integer that is too long or is nested too deeply. -/
def ReachesLimit (result : Except Interruption Finished) : Prop :=
  ∃ finished, result = .ok finished ∧ finished.code = 0 ∧
    ((∃ digits, Json.parse finished.output = .error (.longInteger digits)) ∨
      ∃ inObject, Json.parse finished.output = .error (.tooDeep inObject))

/-- The system did not start the run. -/
def Refused (result : Except Interruption Finished) : Prop :=
  ∃ problem, result = .error (.refused problem)

/-- A run ended well, and its output is an object. -/
def Prints (result : Except Interruption Finished) (document : Json) : Prop :=
  ∃ finished, result = .ok finished ∧ finished.code = 0 ∧
    Json.parse finished.output = .ok document ∧ ∃ fields, document = .obj fields

/-- The output has a row of too many digits, or too many opening brackets. -/
def ShowsLimit (output : String) : Prop :=
  (∃ digits, HasLongRow output.toList digits) ∨
    nestingLimit + 1 < output.toList.countP isOpening

/-- The outcome is what a run can give: the object that it printed or the fault of a command, unless
the run was not started or the reader reached a limit, which then shows in the output. -/
structure Told (result : Except Interruption Finished) (outcome : Except Fault Json) : Prop where
  object_iff : ∀ document, outcome = .ok document ↔ Prints result document
  stray_iff : (∃ fault, outcome = .error fault ∧ ¬ fault.IsOfCommand) ↔
    ReachesLimit result ∨ Refused result
  stray_kind : ∀ fault, outcome = .error fault → ¬ fault.IsOfCommand →
    fault.kind = .badValue ∨ fault.kind = .depth ∨ fault.kind = .system
  shown : ReachesLimit result → ∃ finished, result = .ok finished ∧ ShowsLimit finished.output

theorem shown_of_reachesLimit (h : ReachesLimit result) :
    ∃ finished, result = .ok finished ∧ ShowsLimit finished.output := by
  obtain ⟨finished, hresult, -, hparse⟩ := h
  obtain ⟨hlong, hdeep⟩ := parse_limits finished.output
  refine ⟨finished, hresult, ?_⟩
  rcases hparse with ⟨digits, hparse⟩ | ⟨inObject, hparse⟩
  · exact .inl ⟨digits, hlong digits hparse⟩
  · exact .inr (hdeep inObject hparse)

theorem Prints.unique {document other : Json} (h : Prints result document)
    (h' : Prints result other) : document = other := by
  obtain ⟨finished, hresult, -, hparse, -⟩ := h
  obtain ⟨_, hresult', -, hparse', -⟩ := h'
  obtain rfl := Except.ok.inj (hresult.symm.trans hresult')
  exact Except.ok.inj (hparse.symm.trans hparse')

theorem not_prints_of_reachesLimit (h : ReachesLimit result) (document : Json) :
    ¬ Prints result document := by
  rintro ⟨finished, hresult, -, hparse, -⟩
  obtain ⟨_, hresult', -, hlimit⟩ := h
  obtain rfl := Except.ok.inj (hresult.symm.trans hresult')
  rcases hlimit with ⟨digits, hlong⟩ | ⟨inObject, hdeep⟩
  · cases hlong.symm.trans hparse
  · cases hdeep.symm.trans hparse

theorem not_refused_ok : ¬ Refused (.ok finished) := by
  rintro ⟨problem, hresult⟩
  cases hresult

theorem told_of_command (hfault : fault.IsOfCommand) (hlimit : ¬ ReachesLimit result)
    (hrefused : ¬ Refused result) (hprints : ∀ document, ¬ Prints result document) :
    Told result (.error fault) where
  object_iff document := iff_of_false (fun h ↦ by cases h) (hprints document)
  stray_iff := by
    refine iff_of_false ?_ (not_or.mpr ⟨hlimit, hrefused⟩)
    rintro ⟨other, hother, hstray⟩
    cases hother
    exact hstray hfault
  stray_kind other hother hstray := by
    cases hother
    exact absurd hfault hstray
  shown := shown_of_reachesLimit

theorem told_of_object {fields : List (String × Json)} (hprints : Prints result (.obj fields)) :
    Told result (.ok (.obj fields)) where
  object_iff document := by
    constructor
    · intro h
      exact Except.ok.inj h ▸ hprints
    · intro h
      rw [hprints.unique h]
  stray_iff := by
    refine iff_of_false ?_ ?_
    · rintro ⟨fault, hfault, -⟩
      cases hfault
    · rintro (hlimit | ⟨problem, hresult⟩)
      · exact not_prints_of_reachesLimit hlimit _ hprints
      · obtain ⟨finished, hfinished, -⟩ := hprints
        cases hresult.symm.trans hfinished
  stray_kind _ h := by cases h
  shown := shown_of_reachesLimit

theorem told_of_limit (hfault : ¬ fault.IsOfCommand)
    (hkind : fault.kind = .badValue ∨ fault.kind = .depth) (hlimit : ReachesLimit result) :
    Told result (.error fault) where
  object_iff document :=
    iff_of_false (fun h ↦ by cases h) (not_prints_of_reachesLimit hlimit document)
  stray_iff := iff_of_true ⟨fault, rfl, hfault⟩ (.inl hlimit)
  stray_kind other hother _ := by
    cases hother
    exact hkind.imp_right .inl
  shown := shown_of_reachesLimit

/-- A run that the system does not start ends in a fault that is not that of a command. -/
theorem told_of_refused (problem : StartProblem) :
    Told (.error (.refused problem)) (.error problem.fault) where
  object_iff document := by
    refine iff_of_false (fun h ↦ by cases h) ?_
    rintro ⟨finished, hresult, -⟩
    cases hresult
  stray_iff := by
    refine iff_of_true ⟨problem.fault, rfl, ?_⟩ (.inr ⟨problem, rfl⟩)
    cases problem <;> simp [Fault.isOfCommand_iff, StartProblem.fault, Fault.kind]
  stray_kind fault hfault _ := by
    cases hfault
    cases problem with
    | nullByte => exact .inl rfl
    | system => exact .inr (.inr rfl)
  shown := shown_of_reachesLimit

/-- Every complaint about a replacement is the fault of a command. -/
theorem isOfCommand_refusal (name scope complaint : String) :
    (refusal name scope complaint).IsOfCommand := by
  rw [Fault.isOfCommand_iff]
  unfold refusal
  split
  · simp [Fault.kind]
  · split
    · simp [Fault.kind]
    · simp [Fault.kind]

theorem told_of_interruption (interruption : Interruption) (seconds : Int) :
    Told (.error interruption) (.error (interruption.fault seconds)) := by
  have hnone : ¬ ReachesLimit (.error interruption) := by
    rintro ⟨finished, hresult, -⟩
    cases hresult
  have hprints (document : Json) : ¬ Prints (.error interruption) document := by
    rintro ⟨finished, hresult, -⟩
    cases hresult
  cases interruption with
  | refused problem => exact told_of_refused problem
  | timedOut =>
    have hfault : (Fault.command (.timedOut seconds)).IsOfCommand :=
      Fault.isOfCommand_iff.mpr List.mem_cons_self
    exact told_of_command hfault hnone (fun ⟨_, h⟩ ↦ by cases h) hprints
  | missing =>
    have hfault : (Fault.command .notFound).IsOfCommand :=
      Fault.isOfCommand_iff.mpr List.mem_cons_self
    exact told_of_command hfault hnone (fun ⟨_, h⟩ ↦ by cases h) hprints

theorem told_of_failed (hcode : finished.code ≠ 0) (hfault : fault.IsOfCommand) :
    Told (.ok finished) (.error fault) := by
  refine told_of_command hfault ?_ not_refused_ok fun document ↦ ?_
  · rintro ⟨other, hother, hzero, -⟩
    cases hother
    exact hcode hzero
  · rintro ⟨other, hother, hzero, -⟩
    cases hother
    exact hcode hzero

theorem reachesLimit_iff (hcode : finished.code = 0) :
    ReachesLimit (.ok finished) ↔
      (∃ digits, Json.parse finished.output = .error (.longInteger digits)) ∨
        ∃ inObject, Json.parse finished.output = .error (.tooDeep inObject) := by
  constructor
  · rintro ⟨other, hother, -, hparse⟩
    cases hother
    exact hparse
  · exact fun hparse ↦ ⟨finished, rfl, hcode, hparse⟩

theorem prints_iff (hcode : finished.code = 0) (document : Json) :
    Prints (.ok finished) document ↔
      Json.parse finished.output = .ok document ∧ ∃ fields, document = .obj fields := by
  constructor
  · rintro ⟨other, hother, -, hparse⟩
    cases hother
    exact hparse
  · exact fun hparse ↦ ⟨finished, rfl, hcode, hparse⟩

/-- What is read of the output of a run that ended well. -/
theorem told_readObject (hcode : finished.code = 0) :
    Told (.ok finished) (readObject finished.output) := by
  have hlimit := reachesLimit_iff hcode
  have hprints := prints_iff hcode
  unfold readObject
  cases hparse : Json.parse finished.output with
  | ok document =>
    have hno : ¬ ReachesLimit (.ok finished) := by simp [hlimit, hparse]
    cases document with
    | obj fields => exact told_of_object ((hprints _).mpr ⟨hparse, fields, rfl⟩)
    | _ =>
      refine told_of_command (Fault.isOfCommand_iff.mpr (by simp [Fault.kind])) hno not_refused_ok
        fun other ↦ ?_
      rw [hprints, hparse]
      rintro ⟨heq, fields, rfl⟩
      cases heq
  | error refused =>
    cases refused with
    | malformed problem place =>
      have hno : ¬ ReachesLimit (.ok finished) := by simp [hlimit, hparse]
      refine told_of_command (Fault.isOfCommand_iff.mpr (by simp [refusalFault, Fault.kind])) hno
        not_refused_ok fun other ↦ ?_
      rw [hprints, hparse]
      rintro ⟨heq, -⟩
      cases heq
    | longInteger digits =>
      have hstray : ¬ (Fault.longInteger digits).IsOfCommand := by
        simp [Fault.isOfCommand_iff, Fault.kind]
      exact told_of_limit hstray (.inl rfl) (hlimit.mpr (.inl ⟨digits, hparse⟩))
    | tooDeep inObject =>
      have hreached := hlimit.mpr (.inr ⟨inObject, hparse⟩)
      have hstray (activity : String) : ¬ (Fault.tooDeep activity).IsOfCommand := by
        simp [Fault.isOfCommand_iff, Fault.kind]
      cases inObject with
      | true => exact told_of_limit (hstray _) (.inr rfl) hreached
      | false => exact told_of_limit (hstray _) (.inr rfl) hreached

theorem told_fetched (name scope : String) (finished : Finished) :
    Told (.ok finished) (finished.fetched name scope) := by
  unfold Finished.fetched
  split
  · next hcode =>
    split
    · exact told_of_failed hcode (Fault.isOfCommand_iff.mpr (by simp [Fault.kind]))
    · exact told_of_failed hcode (Fault.isOfCommand_iff.mpr (by simp [Fault.kind]))
  · next hcode => exact told_readObject (not_not.mp hcode)

theorem told_replaced (name scope : String) (finished : Finished) :
    Told (.ok finished) (finished.replaced name scope) := by
  unfold Finished.replaced
  split
  · next hcode => exact told_of_failed hcode (isOfCommand_refusal _ _ _)
  · next hcode => exact told_readObject (not_not.mp hcode)

/-- A run that has no end of its own is told as the fault of a command. -/
theorem told_bind {give : Finished → Except Fault Json}
    (hgive : ∀ finished, Told (.ok finished) (give finished)) (seconds : Int)
    (result : Except Interruption Finished) :
    Told result ((result.mapError (Interruption.fault seconds)).bind give) := by
  cases result with
  | ok finished => exact hgive finished
  | error interruption => exact told_of_interruption interruption seconds

/-- Whatever is replied, reading a DaemonSet and replacing one give the object that was printed or
the fault of a command.  The exceptions are a run that the system does not start, and an output of a
run that ended well in which the reader reaches a limit, which the output then shows.  A DaemonSet
that the host cannot write, for an integer that is too long or for want of room, ends in a fault
that is not that of a command without any run, and the file whose writing broke off stays. -/
theorem replies_told (access : Access) (name scope : String) {daemonSet : Json}
    {own ownScope : String} (htells : Tells daemonSet own ownScope) (session : Session Transcript) :
    Told (session.cluster.nextResult none)
        ((fetch access (.str name) (.str scope)).runOn session).1 ∧
      let replaced := (replace access daemonSet).runOn session
      match session.host.sendFault? daemonSet with
      | none => Told (session.cluster.nextResult (some daemonSet.line)) replaced.1 ∧
        replaced.2.cluster.files = session.cluster.files
      | some fault => (fault = .noRoom ∨ fault = .value .longText) ∧ ¬ fault.IsOfCommand ∧
        replaced.1 = .error fault ∧
        replaced.2.cluster = { session.cluster with files := none :: session.cluster.files } := by
  rw [outcome_fetch]
  refine ⟨told_bind (told_fetched name scope) _ _, ?_⟩
  intro replaced
  cases hsend : session.host.sendFault? daemonSet with
  | none =>
    obtain ⟨houtcome, hcluster⟩ := runOn_replace htells hsend
    change replaced.1 = _ at houtcome
    change replaced.2.cluster = _ at hcluster
    rw [houtcome, hcluster]
    exact ⟨told_bind (told_replaced own ownScope) _ _, rfl⟩
  | some fault =>
    have hkinds := eq_of_writeFault? hsend
    have hran : replaced = _ := runOn_replace_of_sendFault htells hsend
    rw [hran]
    refine ⟨hkinds, ?_, rfl, rfl⟩
    rcases hkinds with rfl | rfl <;> simp [Fault.isOfCommand_iff, Fault.noRoom, Fault.kind]

/-- A run that is stopped is the fault of a command. -/
theorem replies_told_of_timeout :
    let daemonSet := Json.obj [("metadata", .obj [("name", .str "kube-proxy"),
      ("namespace", .str "kube-system")])]
    let session : Session Transcript := { cluster := { replies := [.timedOut] } }
    Tells daemonSet "kube-proxy" "kube-system" ∧ ∃ fault,
      ((replace {} daemonSet).runOn session).1 = .error fault ∧ fault.IsOfCommand := by
  intro daemonSet session
  have htells : Tells daemonSet "kube-proxy" "kube-system" := ⟨_, rfl, rfl, rfl⟩
  have hsend : session.host.sendFault? daemonSet = none := by decide
  obtain ⟨-, htold⟩ := replies_told {} "kube-proxy" "kube-system" htells session
  rw [hsend] at htold
  refine ⟨htells, .command (.timedOut 60), rfl, ?_⟩
  by_contra hstray
  rcases htold.1.stray_iff.mp ⟨_, rfl, hstray⟩ with ⟨finished, hresult, -⟩ | ⟨problem, hresult⟩
  · cases hresult
  · cases hresult

/-- An object with an integer of 4301 digits is refused with a fault that is not that of a
command. -/
theorem replies_stray_of_long_integer :
    ∃ output, output.toList = "\x7b\"n\":".toList ++ List.replicate 4301 '1' ++ ['}'] ∧
      ((fetch {} (.str "kube-proxy") (.str "kube-system")).runOn
        { cluster := { replies := [.finished 0 (.text output) ""] } }).1 =
          .error (.longInteger 4301) ∧
      ¬ (Fault.longInteger 4301).IsOfCommand := by
  obtain ⟨output, houtput⟩ : ∃ output : String,
      output.toList = "\x7b\"n\":".toList ++ List.replicate 4301 '1' ++ ['}'] :=
    ⟨String.ofList _, String.toList_ofList⟩
  have hparse : Json.parse output = .error (.longInteger 4301) := by
    unfold Json.parse
    rw [houtput]
    exact readChars_long_field (by decide)
  have hread : readObject output = .error (.longInteger 4301) := by
    unfold readObject
    rw [hparse]
    rfl
  refine ⟨output, houtput, ?_, by simp [Fault.isOfCommand_iff, Fault.kind]⟩
  rw [outcome_fetch]
  exact hread

end Kubectl

end AddonUpkeep
