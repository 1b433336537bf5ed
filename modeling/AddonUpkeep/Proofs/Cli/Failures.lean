import AddonUpkeep.Cluster.Memory
import AddonUpkeep.Proofs.Cli.Reporting

/-!
# The names that failed

A summary lists the names that failed beside its entries, and its message counts that list.  An
addon that fails is listed once, since it is handled once.  A name that stands for no addon is
listed each time it is given, but has one entry.  So the list and the table say the same when no
such name is given twice, and in no other case.
-/

namespace AddonUpkeep

open AddonUpkeep.Catalog

variable {σ α : Type}

namespace Summary

/-- The names of the entries that are failures, in order. -/
def failingNames (entries : Table String (Entry α)) : List String :=
  (entries.filter fun entry ↦ !entry.2.isSuccess).map (·.1)

/-- The failed names of a summary beside its entries.  They are the unknown names as they are given,
and behind them the addons that failed. -/
structure ListsFailures (summary : Summary α) (names : List String) : Prop where
  failed_eq : summary.failed = names.filter isUnknown ++
    (failingNames summary.entries).filter fun name ↦ !isUnknown name
  eraseDups_failed : summary.failed.eraseDups = failingNames summary.entries
  failed_eq_iff : summary.failed = failingNames summary.entries ↔ (names.filter isUnknown).Nodup
  length_eq_iff : summary.failed.length = (failingNames summary.entries).length ↔
    (names.filter isUnknown).Nodup

section Results

variable {names : List String} {results : List (Result α)}

/-- The addons that failed. -/
def failedAddons (results : List (Result α)) : List String :=
  (results.filter fun result ↦ !result.isSuccess).map Result.addon

theorem failingNames_of (names : List String) :
    failingNames (Resolution.of (α := α) names).entries = unknownNames names := by
  calc failingNames (Resolution.of (α := α) names).entries
      = ((unknownNames names).filter fun _ ↦ true).map id := by
        unfold failingNames Resolution.of
        rw [List.filter_map, List.map_map]
        rfl
    _ = unknownNames names := by simp

theorem failingNames_withResults (names : List String) (results : List (Result α)) :
    failingNames (Resolution.withResults names results).entries =
      unknownNames names ++ failedAddons results := by
  have hknown : failingNames (results.map knownEntry) = failedAddons results := by
    simp [failingNames, failedAddons, knownEntry, List.filter_map, Function.comp_def]
  calc failingNames (Resolution.withResults names results).entries
      = failingNames (Resolution.of (α := α) names).entries ++
          failingNames (results.map knownEntry) := by
        simp [failingNames, Resolution.withResults]
    _ = unknownNames names ++ failedAddons results := by rw [failingNames_of, hknown]

/-- The results of addons have names that are known. -/
theorem isUnknown_of_mem_failedAddons
    (hresults : results.map Result.addon = (namedKinds names).map AddonKind.name) {name : String}
    (h : name ∈ failedAddons results) : isUnknown name = false := by
  have hname : name ∈ results.map Result.addon :=
    (List.filter_sublist.map Result.addon).subset h
  rw [hresults] at hname
  obtain ⟨kind, -, rfl⟩ := List.mem_map.mp hname
  exact isUnknown_name kind

theorem listsFailures_ofResults (calls : α → Bool) (message : String)
    (hresults : results.map Result.addon = (namedKinds names).map AddonKind.name) :
    (ofResults calls names results message).ListsFailures names := by
  set summary := ofResults calls names results message
  have hfailing : failingNames summary.entries = unknownNames names ++ failedAddons results :=
    failingNames_withResults names results
  have hfailed : summary.failed = names.filter isUnknown ++ failedAddons results := rfl
  have hnodup : (failingNames summary.entries).Nodup :=
    (nodup_keys_withResults hresults).sublist (List.filter_sublist.map _)
  have haddons : (failedAddons results).Nodup := by
    rw [hfailing] at hnodup
    exact (List.nodup_append.mp hnodup).2.1
  have hdistinct : (failedAddons results).removeAll (names.filter isUnknown) =
      failedAddons results := by
    refine List.filter_eq_self.mpr fun name hname ↦ ?_
    simp [isUnknown_of_mem_failedAddons hresults hname]
  have herased : summary.failed.eraseDups = failingNames summary.entries := by
    rw [hfailed, hfailing, List.eraseDups_append, hdistinct, eraseDups_of_nodup haddons]
    rfl
  have hlength : summary.failed.length = (failingNames summary.entries).length ↔
      (names.filter isUnknown).Nodup := by
    rw [hfailed, hfailing, List.length_append, List.length_append, Nat.add_right_cancel_iff,
      eq_comm]
    exact length_eraseDups_eq_iff
  refine ⟨?_, herased, ⟨fun heq ↦ hlength.mp (congrArg List.length heq), fun hgiven ↦ ?_⟩, hlength⟩
  · have hunknown : (unknownNames names).filter (fun name ↦ !isUnknown name) = [] :=
      List.filter_eq_nil_iff.mpr fun name hname ↦ by simp [(mem_unknownNames.mp hname).2]
    have hknown : (failedAddons results).filter (fun name ↦ !isUnknown name) =
        failedAddons results :=
      List.filter_eq_self.mpr fun name hname ↦ by
        simp [isUnknown_of_mem_failedAddons hresults hname]
    rw [hfailing, List.filter_append, hunknown, hknown, List.nil_append, hfailed]
  · rw [hfailing, hfailed, unknownNames, eraseDups_of_nodup hgiven]

end Results

variable (settings : Table String (Option Settings)) (cluster : Cluster σ) (names : List String)
  (version : String) (dryRun : Bool) (session : Session σ)

theorem listsFailures_check :
    ((check settings cluster names version).runOn session).1.ListsFailures names := by
  obtain ⟨log, message, hcheck⟩ := runOn_check settings cluster names version session
  rw [hcheck]
  apply listsFailures_ofResults
  apply addons_of_mapM
  exact fun kind session ↦ addon_of_checkOne settings cluster version session kind

theorem listsFailures_update :
    ((update settings cluster names version dryRun).runOn session).1.ListsFailures names := by
  obtain ⟨log, message, hupdate⟩ := runOn_update settings cluster names version dryRun session
  rw [hupdate]
  apply listsFailures_ofResults
  apply addons_of_mapM
  exact fun kind session ↦ addon_of_updateResult settings cluster version dryRun session kind

/-- The message ends with the number of failed names and the names. -/
def TellsFailures (summary : Summary α) : Prop :=
  ∃ opening, summary.message = opening ++ listing summary.failed "failed"

theorem tellsFailures_check :
    ((check settings cluster names version).runOn session).1.TellsFailures := by
  unfold check
  split
  · exact ⟨"No addons specified", rfl⟩
  · rw [Work.runOn_bind, Work.runOn_bind]
    exact ⟨_, String.append_assoc.symm⟩

theorem tellsFailures_update :
    ((update settings cluster names version dryRun).runOn session).1.TellsFailures := by
  unfold update
  split
  · exact ⟨"No addons specified", rfl⟩
  · rw [Work.runOn_bind, Work.runOn_bind, Work.runOn_bind]
    exact ⟨_, String.append_assoc.symm⟩

end Summary

namespace Cli

open AddonUpkeep.Summary

instance (status : Status) (row : List String) : Decidable (Shows status row) :=
  inferInstanceAs (Decidable (row[1]? = some status.markup))

/-- What is printed of a summary of names.  The rows that show a failure are those of the entries
that are failures, and the message below counts the failed names.  The two numbers are the same
when the unknown names are all different. -/
def ShowsFailures (summary : Summary α) (names : List String) (items : List Item) : Prop :=
  ∃ title rows opening rest,
    items = .table title headers rows ::
      .text (opening ++ listing summary.failed "failed") :: rest ∧
    (rows.filter (Shows .failed ·)).map List.head? = (failingNames summary.entries).map some ∧
    (rows.countP (Shows .failed ·) = summary.failed.length ↔ (names.filter isUnknown).Nodup)

/-- A summary lists the failures among its entries, and so does what is printed of it. -/
def ReportsFailures (names : List String) (render : Summary α → List Item) (summary : Summary α) :
    Prop :=
  summary.ListsFailures names ∧ ShowsFailures summary names (render summary)

section Rows

variable {calls : α → Bool} {message : Result α → String} {names : List String}
  {summary : Summary α}

theorem filter_shows_failed (entries : Table String (Entry α)) :
    (entries.map (rowOf calls message)).filter (Shows .failed ·) =
      (entries.filter fun entry ↦ !entry.2.isSuccess).map (rowOf calls message) := by
  rw [List.filter_map]
  congr 1
  refine List.filter_congr fun entry _ ↦ ?_
  simp [shows_rowOf_iff, statusOf_eq_failed_iff]

/-- The table and the message of a summary show its failures. -/
theorem showsFailures_render (title : String) (rest : List Item)
    (hlists : summary.ListsFailures names) (htells : summary.TellsFailures) :
    ShowsFailures summary names (render title calls message summary ++ rest) := by
  obtain ⟨opening, hmessage⟩ := htells
  refine ⟨title, summary.entries.map (rowOf calls message), opening, rest, ?_, ?_, ?_⟩
  · rw [← hmessage]
    rfl
  · rw [filter_shows_failed, failingNames, List.map_map, List.map_map]
    rfl
  · have hcount : (summary.entries.map (rowOf calls message)).countP (Shows .failed ·) =
        (failingNames summary.entries).length := by
      rw [List.countP_eq_length_filter, filter_shows_failed, failingNames, List.length_map,
        List.length_map]
    rw [hcount, eq_comm]
    exact hlists.length_eq_iff

end Rows

variable (settings : Table String (Option Settings)) (cluster : Cluster σ) (names : List String)
  (version : String) (dryRun : Bool) (session : Session σ)

/-- Check and update list the unknown names as they are given and the addons that failed.  Without
repetitions these are the entries that are failures, in their order; what is printed counts the one
and shows the other.  They are the same when no unknown name is given twice. -/
theorem failures_listed :
    ReportsFailures names (renderCheck version)
        ((Summary.check settings cluster names version).runOn session).1 ∧
      ReportsFailures names (renderUpdate version)
        ((Summary.update settings cluster names version dryRun).runOn session).1 := by
  have hchecked := listsFailures_check settings cluster names version session
  have hupdated := listsFailures_update settings cluster names version dryRun session
  refine ⟨⟨hchecked, ?_⟩, hupdated, ?_⟩
  · have htells := tellsFailures_check settings cluster names version session
    exact showsFailures_render _ [] hchecked htells
  · have htells := tellsFailures_update settings cluster names version dryRun session
    exact showsFailures_render _ _ hupdated htells

/-- A name that stands for no addon is listed and counted as often as it is given, and has one
row. -/
theorem failures_listed_of_repeated_name :
    let names := ["nope", "nope"]
    let summary := ((Summary.check [] Memory.cluster names "1.27").runOn { cluster := {} }).1
    summary.failed = ["nope", "nope"] ∧ failingNames summary.entries = ["nope"] ∧
      summary.message = "Addons: 0/0 up-to-date, 2 failed: nope, nope" := by
  decide +kernel

end Cli

end AddonUpkeep
