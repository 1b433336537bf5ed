import AddonUpkeep.Cli.Run
import AddonUpkeep.Proofs.Addon.Completeness
import AddonUpkeep.Proofs.Cluster.Kubectl

/-!
# What a command line reports

The table is made of the entries of a summary, the exit code of its lists.  Both say the same,
because the summary is complete.  A run that stops before prints no table.
-/

namespace AddonUpkeep.Cli

open AddonUpkeep.Kubectl

variable {α : Type} {calls : α → Bool} {message : Result α → String} {names : List String}
  {results : List (Result α)} {summary : Summary α}

/-- The row shows the status. -/
def Shows (status : Status) (row : List String) : Prop := row[1]? = some status.markup

theorem shows_rowOf_iff {status : Status} {entry : String × Entry α} :
    Shows status (rowOf calls message entry) ↔ statusOf calls entry.2 = status := by
  have hmarkup (first second : Status) : first.markup = second.markup ↔ first = second := by
    cases first <;> cases second <;> decide
  simp [Shows, rowOf, hmarkup]

/-- The rows are those of the entries, and their statuses say what the entries and the flagged names
say. -/
def Tabulates (summary : Summary α) (rows : List (List String)) : Prop :=
  List.Forall₂ (fun entry row ↦ row.head? = some entry.1 ∧
    (Shows .failed row ↔ entry.2.isSuccess = false) ∧
    (Shows .outdated row ↔ entry.1 ∈ summary.flagged) ∧
    (Shows .ok row ↔ entry.2.isSuccess = true ∧ entry.1 ∉ summary.flagged)) summary.entries rows

theorem statusOf_eq_failed_iff {entry : Entry α} :
    statusOf calls entry = .failed ↔ entry.isSuccess = false := by
  unfold statusOf Entry.isSuccess
  cases entry.value? with
  | none => simp
  | some value => cases hcalls : calls value <;> simp [hcalls]

theorem statusOf_eq_outdated_iff {entry : Entry α} :
    statusOf calls entry = .outdated ↔ entry.value?.any calls = true := by
  unfold statusOf
  cases entry.value? with
  | none => simp
  | some value => cases hcalls : calls value <;> simp [hcalls]

theorem statusOf_eq_ok_iff {entry : Entry α} :
    statusOf calls entry = .ok ↔ entry.isSuccess = true ∧ ¬ entry.value?.any calls = true := by
  unfold statusOf Entry.isSuccess
  cases entry.value? with
  | none => simp
  | some value => cases hcalls : calls value <;> simp [hcalls]

/-- The value of an entry calls for an update when its name is flagged. -/
theorem any_value?_iff (h : summary.Complete names calls results) {entry : String × Entry α}
    (hentry : entry ∈ summary.entries) :
    entry.2.value?.any calls = true ↔ entry.1 ∈ summary.flagged := by
  have hfound : summary.entries.get? entry.1 = some entry.2 :=
    Table.get?_of_mem h.nodup_keys hentry
  rw [h.mem_flagged, hfound]
  cases hkind : entry.2 with
  | unknown name error => simp [Entry.value?]
  | known result =>
    obtain ⟨addon, value⟩ := result
    cases value with
    | error message => simp [Entry.value?, Except.toOption]
    | ok value => simp [Entry.value?, Except.toOption]

/-- The table of a complete summary says what the summary says. -/
theorem tabulates_rows (h : summary.Complete names calls results) :
    Tabulates summary (summary.entries.map (rowOf calls message)) := by
  unfold Tabulates
  rw [List.forall₂_map_right_iff, List.forall₂_same]
  intro entry hentry
  refine ⟨rfl, ?_, ?_, ?_⟩
  · rw [shows_rowOf_iff, statusOf_eq_failed_iff]
  · rw [shows_rowOf_iff, statusOf_eq_outdated_iff, any_value?_iff h hentry]
  · rw [shows_rowOf_iff, statusOf_eq_ok_iff, any_value?_iff h hentry]

/-- Some row shows a failure when the summary is none of a success. -/
theorem exists_failed_iff (h : summary.Complete names calls results) :
    (∃ row ∈ summary.entries.map (rowOf calls message), Shows .failed row) ↔
      summary.isSuccess = false := by
  rw [← Bool.not_eq_true, h.isSuccess_iff]
  simp [shows_rowOf_iff, statusOf_eq_failed_iff]

/-- Some row shows an outdated addon when some name is flagged. -/
theorem exists_outdated_iff (h : summary.Complete names calls results) :
    (∃ row ∈ summary.entries.map (rowOf calls message), Shows .outdated row) ↔
      summary.flagged ≠ [] := by
  constructor
  · rintro ⟨row, hrow, hshows⟩
    obtain ⟨entry, hentry, rfl⟩ := List.mem_map.mp hrow
    rw [shows_rowOf_iff, statusOf_eq_outdated_iff, any_value?_iff h hentry] at hshows
    exact List.ne_nil_of_mem hshows
  · intro hflagged
    obtain ⟨name, hname⟩ := List.exists_mem_of_ne_nil _ hflagged
    obtain ⟨entry, hentry, rfl⟩ := List.mem_map.mp (h.flagged_sublist.subset hname)
    refine ⟨_, List.mem_map_of_mem hentry, ?_⟩
    rwa [shows_rowOf_iff, statusOf_eq_outdated_iff, any_value?_iff h hentry]

/-- What a check prints, and its exit code: one table, and the message of the summary. -/
def CheckReported (summary : Summary Bool) (items : List Item) (code : Nat) : Prop :=
  ∃ title rows, items = [.table title headers rows, .text summary.message] ∧
    Tabulates summary rows ∧
    (code = 2 ↔ ∃ row ∈ rows, Shows .failed row) ∧
    (code = 1 ↔ (¬ ∃ row ∈ rows, Shows .failed row) ∧ ∃ row ∈ rows, Shows .outdated row) ∧
    (code = 0 ↔ (¬ ∃ row ∈ rows, Shows .failed row) ∧ ¬ ∃ row ∈ rows, Shows .outdated row)

/-- What an update prints, and its exit code: one table, the message of the summary, and a hint when
some row calls for it. -/
def UpdateReported (summary : Summary Outcome) (items : List Item) (code : Nat) : Prop :=
  ∃ title rows hint, items = .table title headers rows :: .text summary.message :: hint ∧
    Tabulates summary rows ∧
    (code = 2 ↔ ∃ row ∈ rows, Shows .failed row) ∧
    (code = 0 ↔ ¬ ∃ row ∈ rows, Shows .failed row) ∧
    ((hint = [approvalHint] ∧ ∃ row ∈ rows, Shows .outdated row) ∨
      (hint = [] ∧ ¬ ∃ row ∈ rows, Shows .outdated row))

/-- Whether the command can be run at all does not depend on the log. -/
theorem checkClient_noting (session : Session Transcript) (log : Log) :
    (checkClient.runOn (session.noting log)).1 = (checkClient.runOn session).1 ∧
      (checkClient.runOn (session.noting log)).2.cluster =
        (checkClient.runOn session).2.cluster ∧
      (checkClient.runOn (session.noting log)).2.host = (checkClient.runOn session).2.host := by
  unfold checkClient
  rw [Task.runOn_bind, runOn_execute, Task.runOn_bind, runOn_execute, Session.cluster_noting]
  dsimp only
  cases (session.cluster.replies.headD .silent).result none with
  | error interruption => cases interruption <;> exact ⟨rfl, rfl, rfl⟩
  | ok finished =>
    dsimp only
    split
    · exact ⟨rfl, rfl, rfl⟩
    · exact ⟨rfl, rfl, rfl⟩

theorem eq_noHome_of_expandHome {home : Option String} {accounts : Accounts} {path : Path}
    {fault : Fault} (h : path.expandHome home accounts = .error fault) : fault = .noHome := by
  unfold Path.expandHome at h
  split at h
  · split at h
    · exact (Except.error.inj h).symm
    · split at h
      · exact (Except.error.inj h).symm
      · cases h
  · cases h

/-- The path of the kubeconfig file cannot be told only when there is no home directory. -/
theorem eq_noHome_of_kubeconfigPath {config : Config} {environment : Environment}
    {accounts : Accounts} {fault : Fault}
    (h : config.kubeconfigPath environment accounts = .error fault) : fault = .noHome := by
  unfold Config.kubeconfigPath at h
  cases hgiven : Config.given? config.kubeconfig with
  | none =>
    rw [hgiven] at h
    cases h
  | some text =>
    rw [hgiven] at h
    change ((Path.ofString text).expandHome _ _).map some = _ at h
    cases hpath : (Path.ofString text).expandHome (environment.get? Config.homeVariable)
      accounts with
    | ok path =>
      rw [hpath] at h
      cases h
    | error problem =>
      rw [hpath] at h
      cases h
      exact eq_noHome_of_expandHome hpath

theorem checkReported_of_complete {summary : Summary Bool} {results : List (Result Bool)}
    (h : summary.Complete names (!·) results) (version : String) :
    CheckReported summary (renderCheck version summary) (checkCode summary) := by
  refine ⟨_, _, rfl, tabulates_rows h, ?_⟩
  rw [exists_failed_iff h, exists_outdated_iff h]
  unfold checkCode
  cases summary.isSuccess with
  | false => simp [failureCode]
  | true => cases summary.flagged <;> simp

theorem updateReported_of_complete {summary : Summary Outcome} {results : List (Result Outcome)}
    (h : summary.Complete names Outcome.isPending results) (version : String) :
    UpdateReported summary (renderUpdate version summary) (updateCode summary) := by
  refine ⟨_, _, _, rfl, tabulates_rows h, ?_⟩
  rw [exists_failed_iff h, exists_outdated_iff h]
  unfold updateCode
  refine ⟨?_, ?_, ?_⟩
  · cases summary.isSuccess <;> simp [failureCode]
  · cases summary.isSuccess <;> simp [failureCode]
  · cases summary.flagged <;> simp

/-- What a command prints once kubectl was found to work, and its exit code: those of the check or
the update of the addons in the list. -/
def Reported (command : Command) (arguments : Arguments) (config : Config)
    (kubeconfig : Option Path) (list : String) (session : Session Transcript) (items : List Item)
    (code : Nat) : Prop :=
  let settings := Catalog.ofSettings config.addonSettings
  let cluster := Kubectl.cluster (accessOf config kubeconfig)
  let names := addonNames list
  let version := arguments.version
  match command with
  | .check =>
    CheckReported ((Summary.check settings cluster names version).runOn session).1 items code
  | .update =>
    UpdateReported
      ((Summary.update settings cluster names version (!arguments.approve)).runOn session).1
      items code

section Steps

variable {command : Command} {arguments : Arguments} {config : Config}
  {kubeconfig : Option Path} {session middle : Session Transcript} {items : List Item} {code : Nat}

/-- A command reports its summary once kubectl works, or fails in a way that is not foreseen. -/
theorem runCommand_cases (h : checkClient.runOn session = (.ok (), middle)) :
    (∃ list items code after, arguments.addons = .text list ∧
      (runCommand command arguments config kubeconfig).runOn session = (.ok (items, code), after) ∧
      Reported command arguments config kubeconfig list middle items code) ∨
    ∃ fault after, fault.isForeseen = false ∧
      (runCommand command arguments config kubeconfig).runOn session = (.error fault, after) := by
  unfold runCommand
  rw [Task.runOn_bind_of_ok h]
  dsimp only
  cases arguments.addons with
  | empty => exact .inr ⟨_, _, by decide, rfl⟩
  | text list =>
    left
    cases command with
    | check =>
      obtain ⟨log, hcomplete⟩ := Summary.complete_check (Catalog.ofSettings config.addonSettings)
        (Kubectl.cluster (accessOf config kubeconfig)) (addonNames list) arguments.version middle
      exact ⟨list, _, _, _, rfl, rfl, checkReported_of_complete hcomplete _⟩
    | update =>
      obtain ⟨log, hcomplete⟩ := Summary.complete_update (Catalog.ofSettings config.addonSettings)
        (Kubectl.cluster (accessOf config kubeconfig)) (addonNames list) arguments.version
        (!arguments.approve) middle
      exact ⟨list, _, _, _, rfl, rfl, updateReported_of_complete hcomplete _⟩

/-- Work tells the kubeconfig file to the log, and runs the command. -/
theorem runOn_work (command : Command) (arguments : Arguments) (config : Config)
    (environment : Environment) (accounts : Accounts) (session : Session Transcript) :
    ∃ log, (work command arguments config environment accounts).runOn session =
      match config.kubeconfigPath environment accounts with
      | .error fault => (.error fault, session)
      | .ok kubeconfig =>
        (runCommand command arguments config kubeconfig).runOn (session.noting log) := by
  unfold work
  rw [Task.runOn_bind, Task.runOn_ofExcept]
  cases config.kubeconfigPath environment accounts with
  | error fault => exact ⟨[], rfl⟩
  | ok kubeconfig => exact ⟨_, rfl⟩

/-- A run whose work has a foreseen fault prints it. -/
theorem record_of_fault {fault : Fault}
    (hcode : (Record.ofWork session (.error fault)).ending = .code code) :
    fault.isForeseen = true ∧
      (Record.ofWork session (.error fault)).items = [workFault fault] ∧ code = 2 := by
  unfold Record.ofWork at hcode ⊢
  dsimp only at hcode ⊢
  split at hcode
  · next hforeseen =>
    cases hcode
    rw [if_pos hforeseen]
    exact ⟨hforeseen, rfl, rfl⟩
  · cases hcode

end Steps

theorem carryOut_of_configured {words : List String} {surroundings : Surroundings}
    (replies : List Reply) {command : Command} {arguments : Arguments} {config : Config}
    {environment : Environment} (hparse : parse words = .ok (command, arguments))
    (hconfigure : configure arguments surroundings = .ok (config, environment)) :
    carryOut words surroundings replies =
      let ended := (work command arguments config environment surroundings.accounts).runOn
        (startOf config surroundings replies)
      Record.ofWork ended.2 ended.1 := by
  unfold carryOut
  simp only [hparse, hconfigure]
  rfl

/-- A run that ends with an exit code has shown all that it prints. -/
theorem run_eq_carryOut {words : List String} {surroundings : Surroundings} {replies : List Reply}
    {code : Nat} (hcode : (run words surroundings replies).ending = .code code) :
    run words surroundings replies = carryOut words surroundings replies := by
  unfold run Record.printed at hcode ⊢
  split at hcode
  · next hshown => exact if_pos hshown
  · cases hcode

/-- What a command line that was read prints, and the exit code it ends with.  When the
configuration has a fault, or kubectl cannot be run, it prints that and no table.  Otherwise it
prints the one table of the summary of the check or of the update, and the exit code says what the
table shows. -/
theorem run_reports {words : List String} {surroundings : Surroundings} {replies : List Reply}
    {command : Command} {arguments : Arguments} {code : Nat}
    (hparse : parse words = .ok (command, arguments))
    (hcode : (run words surroundings replies).ending = .code code) :
    let items := (run words surroundings replies).items
    match configure arguments surroundings with
    | .error fault => fault.isForeseen = true ∧ items = [configurationFault fault] ∧ code = 2
    | .ok (config, environment) =>
      match checkClient.runOn (startOf config surroundings replies) with
      | (.error fault, _) => fault.isForeseen = true ∧ items = [workFault fault] ∧ code = 2
      | (.ok _, checked) => ∃ kubeconfig list log,
        config.kubeconfigPath environment surroundings.accounts = .ok kubeconfig ∧
        arguments.addons = .text list ∧
        Reported command arguments config kubeconfig list { checked with log } items code := by
  have hshown := run_eq_carryOut hcode
  rw [hshown] at hcode ⊢
  cases hconfigure : configure arguments surroundings with
  | error fault =>
    unfold carryOut at hcode ⊢
    simp only [hparse, hconfigure] at hcode ⊢
    split at hcode
    · next hforeseen =>
      cases hcode
      rw [if_pos hforeseen]
      exact ⟨hforeseen, rfl, rfl⟩
    · cases hcode
  | ok configured =>
    obtain ⟨config, environment⟩ := configured
    have hrun := carryOut_of_configured replies hparse hconfigure
    let start := startOf config surroundings replies
    obtain ⟨log, hwork⟩ :=
      runOn_work command arguments config environment surroundings.accounts start
    obtain ⟨hsame, hcluster, hhost⟩ := checkClient_noting start log
    dsimp only at hrun ⊢
    rw [hrun, hwork] at hcode
    rw [hrun, hwork]
    cases hpath : config.kubeconfigPath environment surroundings.accounts with
    | error fault =>
      -- a home directory that is missing is not foreseen
      cases eq_noHome_of_kubeconfigPath hpath
      rw [hpath] at hcode
      obtain ⟨hforeseen, -⟩ := record_of_fault hcode
      cases hforeseen
    | ok kubeconfig =>
      rw [hpath] at hcode
      dsimp only at hcode ⊢
      rcases hfirst : checkClient.runOn start with ⟨outcome, checked⟩
      rcases hnoted : checkClient.runOn (start.noting log) with ⟨outcome', middle⟩
      rw [hfirst, hnoted] at hsame hcluster hhost
      obtain rfl : outcome' = outcome := hsame
      cases outcome' with
      | error fault =>
        have hstops : (runCommand command arguments config kubeconfig).runOn _ = _ :=
          Task.runOn_bind_of_error hnoted
        rw [hstops] at hcode ⊢
        exact record_of_fault hcode
      | ok _ =>
        rcases runCommand_cases hnoted with
          ⟨list, items, code', after, hlist, hcommand, hreported⟩ |
          ⟨fault, after, hunforeseen, hcommand⟩
        · rw [hcommand] at hcode ⊢
          cases hcode
          obtain ⟨cluster, log', host⟩ := middle
          obtain rfl : cluster = checked.cluster := hcluster
          obtain rfl : host = checked.host := hhost
          exact ⟨kubeconfig, list, log', rfl, hlist, hreported⟩
        · rw [hcommand] at hcode
          rw [(record_of_fault hcode).1] at hunforeseen
          cases hunforeseen

/-- A check that finds an older tag exits with 1, and its table shows an outdated addon. -/
theorem run_reports_older_tag :
    let daemonSet := Json.obj [("spec", .obj [("template", .obj [("spec", .obj
      [("containers", .arr [.obj [("image", .str "registry:v1.17")]])])])])]
    let words := ["check", "-k", "1.20"]
    let arguments : Arguments := { controlPlaneVersion := some (.text "1.20") }
    let replies := [.silent, .finished 0 (.text daemonSet.line) ""]
    let record := run words { environment := [] } replies
    parse words = .ok (.check, arguments) ∧ record.ending = .code 1 ∧
      ∃ title rows message, record.items = [.table title headers rows, .text message] ∧
        (¬ ∃ row ∈ rows, Shows .failed row) ∧ ∃ row ∈ rows, Shows .outdated row := by
  intro daemonSet words arguments replies record
  have hparse : parse words = .ok (.check, arguments) := by
    have hread : (parse words).toOption = some (.check, arguments) := by decide +kernel
    cases hwords : parse words with
    | error stop =>
      rw [hwords] at hread
      cases hread
    | ok found =>
      rw [hwords] at hread
      exact congrArg Except.ok (Option.some.inj hread)
  have hcode : record.ending = .code 1 := by
    have hnumber : (match record.ending with | .code number => some number | _ => none) =
      some 1 := by decide +kernel
    split at hnumber
    · next heq => rw [heq, Option.some.inj hnumber]
    · cases hnumber
  have hreports := run_reports hparse hcode
  refine ⟨hparse, hcode, ?_⟩
  revert hreports
  cases configure arguments { environment := [] } with
  | error fault => rintro ⟨-, -, ⟨⟩⟩
  | ok configured =>
    dsimp only
    rcases checkClient.runOn (startOf configured.1 _ replies) with ⟨outcome, checked⟩
    cases outcome with
    | error fault => rintro ⟨-, -, ⟨⟩⟩
    | ok _ =>
      rintro ⟨kubeconfig, list, log, -, -, title, rows, hitems, -, -, hone, -⟩
      exact ⟨title, rows, _, hitems, hone.mp rfl⟩

end AddonUpkeep.Cli
