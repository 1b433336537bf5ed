import AddonUpkeep.Proofs.Addon.Resolution

/-!
# What summaries say

A check and an update of some names give one summary each.  It has one entry for every name that
stands for no addon, and one for every addon that is named; its lists of failed and flagged names
say the same as its entries.
-/

namespace AddonUpkeep

open AddonUpkeep.Catalog

variable {σ α : Type}

/-- The result of an entry of an addon. -/
def Entry.result? : Entry α → Option (Result α)
  | unknown _ _ => none
  | known result => some result

@[simp]
theorem Result.isSuccess_ok (addon : String) (value : α) :
    (⟨addon, .ok value⟩ : Result α).isSuccess = true := rfl

@[simp]
theorem Result.isSuccess_error (addon message : String) :
    (⟨addon, .error message⟩ : Result α).isSuccess = false := rfl

@[simp]
theorem Entry.isSuccess_known (result : Result α) :
    (known result).isSuccess = result.isSuccess := by
  obtain ⟨addon, value⟩ := result
  cases value with
  | ok value => rfl
  | error message => rfl

namespace Summary

/-- What is settled of some names, given the results of the addons that they stand for. -/
def Resolution.withResults (names : List String) (results : List (Result α)) : Resolution α :=
  { Resolution.of (α := α) names with
    entries := (Resolution.of names).entries ++ results.map knownEntry
    failed := (Resolution.of (α := α) names).failed ++
      (results.filter fun result ↦ !result.isSuccess).map Result.addon }

/-- The summary of some names, given the results of the addons that they stand for. -/
def ofResults (calls : α → Bool) (names : List String) (results : List (Result α))
    (message : String) : Summary α :=
  let settled := Resolution.withResults names results
  ⟨settled.entries, settled.failed, flaggedNames calls settled.entries, message⟩

/-- The summary accounts for every name, and its parts agree. -/
structure Complete (summary : Summary α) (names : List String) (calls : α → Bool)
    (results : List (Result α)) : Prop where
  keys_eq : summary.entries.keys =
    (names.filter isUnknown).eraseDups ++ if names.all isUnknown then [] else ["kube-proxy"]
  nodup_keys : summary.entries.keys.Nodup
  unknown_kept : ∀ name ∈ names, isUnknown name = true →
    summary.entries.get? name = some (unknownEntry name)
  known_kept : ∀ result ∈ results, summary.entries.get? result.addon = some (.known result)
  mem_failed : ∀ name, name ∈ summary.failed ↔
    ∃ entry, summary.entries.get? name = some entry ∧ entry.isSuccess = false
  isSuccess_iff : summary.isSuccess = true ↔ ∀ entry ∈ summary.entries, entry.2.isSuccess = true
  flagged_sublist : summary.flagged.Sublist summary.entries.keys
  mem_flagged : ∀ name, name ∈ summary.flagged ↔ ∃ result value,
    summary.entries.get? name = some (.known result) ∧ result.value = .ok value ∧
      calls value = true
  length_eq : (namedKinds names).length =
    (summary.entries.countP fun entry ↦ entry.2.value?.any fun value ↦ !calls value) +
      summary.flagged.length +
      (summary.entries.countP fun entry ↦ entry.2.result?.any fun result ↦ !result.isSuccess)

section Results

variable {calls : α → Bool} {names : List String} {results : List (Result α)}

theorem keys_of : (Resolution.of (α := α) names).entries.keys = unknownNames names := by
  simp [Resolution.of, Table.keys, Function.comp_def]

theorem keys_withResults :
    (Resolution.withResults names results).entries.keys =
      unknownNames names ++ results.map Result.addon := by
  rw [← keys_of (α := α)]
  simp [Resolution.withResults, Table.keys, knownEntry, Function.comp_def]

/-- No name stands twice: no addon has the name of an unknown one. -/
theorem nodup_keys_withResults
    (hresults : results.map Result.addon = (namedKinds names).map AddonKind.name) :
    (Resolution.withResults names results).entries.keys.Nodup := by
  rw [keys_withResults, hresults, List.nodup_append]
  refine ⟨nodup_eraseDups _, ?_, ?_⟩
  · rcases kinds_eq (nodup_namedKinds names) with hkinds | hkinds
    · rw [hkinds]
      exact List.nodup_nil
    · rw [hkinds]
      exact List.nodup_singleton _
  · intro name hunknown addon hmem heq
    obtain ⟨kind, -, rfl⟩ := List.mem_map.mp hmem
    have hfalse := (mem_unknownNames.mp hunknown).2
    rw [heq, isUnknown_name] at hfalse
    cases hfalse

/-- An entry belongs to an unknown name, or to an addon. -/
theorem exists_entry_iff {accepts : Entry α → Prop} {name : String}
    (hresults : results.map Result.addon = (namedKinds names).map AddonKind.name) :
    (∃ entry, (Resolution.withResults names results).entries.get? name = some entry ∧
        accepts entry) ↔
      (name ∈ unknownNames names ∧ accepts (unknownEntry name)) ∨
        ∃ result ∈ results, result.addon = name ∧ accepts (.known result) := by
  simp only [Table.get?_eq_some_iff (nodup_keys_withResults hresults)]
  constructor
  · rintro ⟨entry, hmem, haccepts⟩
    rcases List.mem_append.mp hmem with hmem | hmem
    · obtain ⟨unknown, hunknown, heq⟩ := List.mem_map.mp hmem
      cases heq
      exact .inl ⟨hunknown, haccepts⟩
    · obtain ⟨result, hresult, heq⟩ := List.mem_map.mp hmem
      cases heq
      exact .inr ⟨result, hresult, rfl, haccepts⟩
  · rintro (⟨hunknown, haccepts⟩ | ⟨result, hresult, rfl, haccepts⟩)
    · exact ⟨_, List.mem_append_left _ (List.mem_map.mpr ⟨name, hunknown, rfl⟩), haccepts⟩
    · exact ⟨_, List.mem_append_right _ (List.mem_map.mpr ⟨result, hresult, rfl⟩), haccepts⟩

/-- A failed name is unknown, or names an addon whose result is a failure. -/
theorem mem_failed_iff {name : String}
    (hresults : results.map Result.addon = (namedKinds names).map AddonKind.name) :
    name ∈ (Resolution.withResults names results).failed ↔ ∃ entry,
      (Resolution.withResults names results).entries.get? name = some entry ∧
        entry.isSuccess = false := by
  rw [exists_entry_iff hresults]
  change name ∈ names.filter isUnknown ++ _ ↔ _
  rw [List.mem_append, List.mem_filter, mem_unknownNames]
  apply or_congr
  · exact (and_iff_left rfl).symm
  · simp only [List.mem_map, List.mem_filter, Bool.not_eq_true', Entry.isSuccess_known]
    constructor
    · rintro ⟨result, ⟨hresult, hfailure⟩, rfl⟩
      exact ⟨result, hresult, rfl, hfailure⟩
    · rintro ⟨result, hresult, rfl, hfailure⟩
      exact ⟨result, ⟨hresult, hfailure⟩, rfl⟩

/-- No name failed when all entries are successes. -/
theorem failed_isEmpty_iff
    (hresults : results.map Result.addon = (namedKinds names).map AddonKind.name) :
    (Resolution.withResults names results).failed.isEmpty = true ↔
      ∀ entry ∈ (Resolution.withResults names results).entries, entry.2.isSuccess = true := by
  rw [List.isEmpty_iff, List.eq_nil_iff_forall_not_mem]
  simp only [mem_failed_iff hresults, Table.get?_eq_some_iff (nodup_keys_withResults hresults)]
  constructor
  · intro h entry hentry
    by_contra hfailure
    exact h entry.1 ⟨entry.2, hentry, Bool.eq_false_iff.mpr hfailure⟩
  · rintro h name ⟨entry, hentry, hfailure⟩
    rw [h _ hentry] at hfailure
    cases hfailure

/-- A flagged name is that of an addon whose value calls for an update. -/
theorem mem_flaggedNames_iff {entries : Table String (Entry α)} {name : String}
    (hnodup : entries.keys.Nodup) :
    name ∈ flaggedNames calls entries ↔ ∃ result value,
      entries.get? name = some (.known result) ∧ result.value = .ok value ∧
        calls value = true := by
  simp only [flaggedNames, List.mem_map, List.mem_filter, Table.get?_eq_some_iff hnodup]
  constructor
  · rintro ⟨⟨name, entry⟩, ⟨hentry, hcalls⟩, rfl⟩
    cases entry with
    | unknown unknown error => cases hcalls
    | known result =>
      obtain ⟨addon, value⟩ := result
      cases value with
      | error message => cases hcalls
      | ok value => exact ⟨_, value, hentry, rfl, hcalls⟩
  · rintro ⟨result, value, hentry, hvalue, hcalls⟩
    refine ⟨(name, .known result), ⟨hentry, ?_⟩, rfl⟩
    simp [Entry.value?, hvalue, Except.toOption, hcalls]

/-- A result is a value that calls for an update, one that does not, or a failure. -/
theorem length_results (calls : α → Bool) (results : List (Result α)) :
    results.length =
      (results.countP fun result ↦ result.value.toOption.any fun value ↦ !calls value) +
        (results.countP fun result ↦ result.value.toOption.any calls) +
        (results.countP fun result ↦ !result.isSuccess) := by
  induction results with
  | nil => rfl
  | cons result results ih =>
    rw [List.length_cons, ih, List.countP_cons, List.countP_cons, List.countP_cons]
    obtain ⟨addon, value⟩ := result
    cases value with
    | error message =>
      simp [Except.toOption]
      omega
    | ok value =>
      cases hcalls : calls value with
      | true =>
        simp [Except.toOption, hcalls]
        omega
      | false =>
        simp [Except.toOption, hcalls]
        omega

/-- Counting the entries of addons counts their results. -/
theorem countP_withResults (counts : Entry α → Bool)
    (hunknown : ∀ name, counts (unknownEntry name) = false) :
    ((Resolution.withResults names results).entries.countP fun entry ↦ counts entry.2) =
      results.countP fun result ↦ counts (.known result) := by
  change List.countP _ (List.map _ (unknownNames names) ++ results.map knownEntry) = _
  rw [List.countP_append, List.countP_map, List.countP_map]
  have hnone : List.countP ((fun entry : String × Entry α ↦ counts entry.2) ∘
      fun name ↦ (name, unknownEntry name)) (unknownNames names) = 0 :=
    List.countP_eq_zero.mpr fun name _ ↦ by simp [hunknown]
  rw [hnone, Nat.zero_add]
  rfl

/-- Every addon that is named is counted once: as having a value that calls for an update or one
that does not, or as a failure. -/
theorem length_namedKinds
    (hresults : results.map Result.addon = (namedKinds names).map AddonKind.name) :
    let entries := (Resolution.withResults names results).entries
    (namedKinds names).length =
      (entries.countP fun entry ↦ entry.2.value?.any fun value ↦ !calls value) +
        (flaggedNames calls entries).length +
        (entries.countP fun entry ↦ entry.2.result?.any fun result ↦ !result.isSuccess) := by
  intro entries
  have hflagged : (flaggedNames calls entries).length =
      entries.countP fun entry ↦ entry.2.value?.any calls := by
    rw [List.countP_eq_length_filter]
    exact List.length_map _
  have hcount (counts : Entry α → Bool) (hunknown : ∀ name, counts (unknownEntry name) = false) :
      (results.countP fun result ↦ counts (.known result)) =
        entries.countP fun entry ↦ counts entry.2 :=
    (countP_withResults counts hunknown).symm
  calc
    _ = ((namedKinds names).map AddonKind.name).length := (List.length_map _).symm
    _ = results.length := by rw [← hresults, List.length_map]
    _ = _ := length_results calls results
    _ = _ := by
      rw [hflagged]
      exact congrArg₂ (· + ·) (congrArg₂ (· + ·)
        (hcount (fun entry ↦ entry.value?.any fun value ↦ !calls value) fun _ ↦ rfl)
        (hcount (fun entry ↦ entry.value?.any calls) fun _ ↦ rfl))
        (hcount (fun entry ↦ entry.result?.any fun result : Result α ↦ !result.isSuccess)
          fun _ ↦ rfl)

/-- A summary of results is complete, when they are the results of the addons that are named. -/
theorem complete_ofResults (calls : α → Bool) (message : String)
    (hresults : results.map Result.addon = (namedKinds names).map AddonKind.name) :
    (ofResults calls names results message).Complete names calls results :=
  have hnodup := nodup_keys_withResults hresults
  { keys_eq := by
      change (Resolution.withResults names results).entries.keys = _
      rw [keys_withResults, hresults, namedKinds_eq]
      split
      · rfl
      · rfl
    nodup_keys := hnodup
    unknown_kept := fun name hname hunknown ↦
      have hmem := List.mem_map.mpr ⟨name, mem_unknownNames.mpr ⟨hname, hunknown⟩, rfl⟩
      Table.get?_of_mem hnodup (List.mem_append_left _ hmem)
    known_kept := fun result hresult ↦
      have hmem := List.mem_map.mpr ⟨result, hresult, rfl⟩
      Table.get?_of_mem hnodup (List.mem_append_right _ hmem)
    mem_failed := fun name ↦ mem_failed_iff hresults
    isSuccess_iff := failed_isEmpty_iff hresults
    flagged_sublist := List.filter_sublist.map _
    mem_flagged := fun name ↦ mem_flaggedNames_iff hnodup
    length_eq := length_namedKinds hresults }

end Results

variable (settings : Table String (Option Settings)) (cluster : Cluster σ) (names : List String)
  (version : String) (dryRun : Bool) (session : Session σ)

/-- Check the addons that names stand for. -/
def checkResults : Work σ (List (Result Bool)) :=
  (namedKinds names).mapM fun kind ↦ (Catalog.addon settings cluster kind).check version

/-- Update one addon, without settling its result. -/
def updateResult (kind : AddonKind) : Work σ (Result Outcome) := do
  Work.log .info s!"Processing addon: {kind.name}"
  let result ← (Catalog.addon settings cluster kind).run version dryRun
  if !result.isSuccess then
    Work.log .warning s!"Addon '{result.addon}' update failed (continuing with others)"
  return result

/-- Update the addons that names stand for. -/
def updateResults : Work σ (List (Result Outcome)) :=
  (namedKinds names).mapM (updateResult settings cluster version dryRun)

theorem updateOne_eq (settled : Resolution Outcome) (kind : AddonKind) :
    updateOne settings cluster version dryRun settled kind = do
      return settled.settle (← updateResult settings cluster version dryRun kind) := by
  unfold updateOne updateResult
  simp only [bind_assoc]
  refine bind_congr fun _ ↦ bind_congr fun result ↦ ?_
  cases result.isSuccess with
  | true => rfl
  | false => rfl

theorem name_addon (kind : AddonKind) : (Catalog.addon settings cluster kind).name = kind.name := by
  cases kind
  rfl

/-- A check of one addon ends as its test does. -/
theorem runOn_checkOne (kind : AddonKind) :
    let addon := Catalog.addon settings cluster kind
    ∃ behind, (addon.check version).runOn session =
      (⟨kind.name, ((addon.isUpToDate version).runOn session).1.mapError Fault.message⟩,
        ((addon.isUpToDate version).runOn session).2.noting behind) := by
  rw [← name_addon settings cluster kind]
  exact Addon.runOn_report _ _ _ session

/-- An update of one addon ends as its run does. -/
theorem runOn_updateResult (kind : AddonKind) :
    let addon := Catalog.addon settings cluster kind
    ∃ before behind, (updateResult settings cluster version dryRun kind).runOn session =
      (⟨kind.name,
          ((addon.apply version dryRun).runOn (session.noting before)).1.mapError Fault.message⟩,
        ((addon.apply version dryRun).runOn (session.noting before)).2.noting behind) := by
  intro addon
  let text := s!"Processing addon: {kind.name}"
  unfold updateResult
  rw [Work.runOn_bind, Work.runOn_log, Work.runOn_bind]
  obtain ⟨before, behind, hrun⟩ := addon.runOn_run version dryRun (session.noting [⟨.info, text⟩])
  rw [hrun, Session.noting_noting, name_addon]
  refine ⟨[⟨.info, text⟩] ++ before, ?_⟩
  generalize (addon.apply version dryRun).runOn (session.noting ([⟨.info, text⟩] ++ before)) = ended
  obtain ⟨outcome, after⟩ := ended
  cases outcome with
  | ok outcome => exact ⟨behind, rfl⟩
  | error fault =>
    let warning := s!"Addon '{kind.name}' update failed (continuing with others)"
    refine ⟨behind ++ [⟨.warning, warning⟩], ?_⟩
    rw [← Session.noting_noting]
    rfl

/-- Handling the addons that names stand for settles their results. -/
theorem runOn_settle (handle : AddonKind → Work σ (Result α))
    (hname : ∀ kind session, ((handle kind).runOn session).1.addon = kind.name) :
    ((Resolution.of (α := α) names).kinds.foldlM (fun (settled : Resolution α) kind ↦ do
        return settled.settle (← handle kind)) (Resolution.of names)).runOn session =
      let handled := ((namedKinds names).mapM handle).runOn session
      (Resolution.withResults names handled.1, handled.2) := by
  have hresults := addons_of_mapM hname (namedKinds names) session
  have hnodup := nodup_keys_withResults hresults
  rw [keys_withResults, ← keys_of (α := α)] at hnodup
  have hsettle := foldl_settle _ _ hnodup
  rw [foldlM_settle, Work.runOn_bind, Work.runOn_pure]
  exact Prod.ext hsettle rfl

theorem addon_of_checkOne (kind : AddonKind) :
    (((Catalog.addon settings cluster kind).check version).runOn session).1.addon = kind.name := by
  obtain ⟨behind, hcheck⟩ := runOn_checkOne settings cluster version session kind
  rw [hcheck]

theorem addon_of_updateResult (kind : AddonKind) :
    ((updateResult settings cluster version dryRun kind).runOn session).1.addon = kind.name := by
  obtain ⟨before, behind, hupdate⟩ :=
    runOn_updateResult settings cluster version dryRun session kind
  rw [hupdate]

/-- A check of names checks the addons that they stand for, and sums up. -/
theorem runOn_check :
    ∃ log message, (check settings cluster names version).runOn session =
      let checked := (checkResults settings cluster names version).runOn (session.noting log)
      (ofResults (!·) names checked.1 message, checked.2) := by
  unfold check
  split
  · next hempty =>
    rw [List.isEmpty_iff.mp hempty]
    refine ⟨[], "No addons specified", ?_⟩
    rw [Session.noting_nil]
    rfl
  · obtain ⟨log, hresolve⟩ := runOn_resolve (α := Bool) names session
    have hsettle (session : Session σ) := runOn_settle names session
      (fun kind ↦ (Catalog.addon settings cluster kind).check version)
      (fun kind session ↦ addon_of_checkOne settings cluster version session kind)
    rw [Work.runOn_bind, hresolve, Work.runOn_bind]
    dsimp only
    rw [hsettle]
    exact ⟨log, _, rfl⟩

/-- An update of names updates the addons that they stand for, and sums up. -/
theorem runOn_update :
    ∃ log message, (update settings cluster names version dryRun).runOn session =
      let updated :=
        (updateResults settings cluster names version dryRun).runOn (session.noting log)
      (ofResults Outcome.isPending names updated.1 message, updated.2) := by
  unfold update
  split
  · next hempty =>
    rw [List.isEmpty_iff.mp hempty]
    refine ⟨[], "No addons specified", ?_⟩
    rw [Session.noting_nil]
    rfl
  · obtain ⟨log, hresolve⟩ := runOn_resolve (α := Outcome) names session
    have hsettle (session : Session σ) := runOn_settle names session
      (updateResult settings cluster version dryRun)
      (fun kind session ↦ addon_of_updateResult settings cluster version dryRun session kind)
    have hstep : updateOne settings cluster version dryRun = fun settled kind ↦ do
        return settled.settle (← updateResult settings cluster version dryRun kind) := by
      funext settled kind
      exact updateOne_eq settings cluster version dryRun settled kind
    rw [Work.runOn_bind, hresolve, Work.runOn_bind, Work.runOn_log, Work.runOn_bind, hstep]
    dsimp only
    rw [hsettle, Session.noting_noting]
    exact ⟨_, _, rfl⟩

/-- The summary of a check is complete. -/
theorem complete_check :
    ∃ log, ((check settings cluster names version).runOn session).1.Complete names (!·)
      ((checkResults settings cluster names version).runOn (session.noting log)).1 := by
  obtain ⟨log, message, hcheck⟩ := runOn_check settings cluster names version session
  refine ⟨log, ?_⟩
  rw [hcheck]
  apply complete_ofResults
  apply addons_of_mapM
  exact fun kind session ↦ addon_of_checkOne settings cluster version session kind

/-- The summary of an update is complete. -/
theorem complete_update :
    ∃ log, ((update settings cluster names version dryRun).runOn session).1.Complete names
      Outcome.isPending
      ((updateResults settings cluster names version dryRun).runOn (session.noting log)).1 := by
  obtain ⟨log, message, hupdate⟩ := runOn_update settings cluster names version dryRun session
  refine ⟨log, ?_⟩
  rw [hupdate]
  apply complete_ofResults
  apply addons_of_mapM
  exact fun kind session ↦ addon_of_updateResult settings cluster version dryRun session kind

/-- The summary of a check and that of an update are complete, whatever the cluster does: both have
an entry for every unknown name and for every addon that is named, and the results of the addons are
those that handling them one after the other gives. -/
theorem summaries_complete :
    (∃ log, ((check settings cluster names version).runOn session).1.Complete names (!·)
      ((checkResults settings cluster names version).runOn (session.noting log)).1) ∧
    ∃ log, ((update settings cluster names version dryRun).runOn session).1.Complete names
      Outcome.isPending
      ((updateResults settings cluster names version dryRun).runOn (session.noting log)).1 :=
  ⟨complete_check settings cluster names version session,
    complete_update settings cluster names version dryRun session⟩

end Summary

end AddonUpkeep
