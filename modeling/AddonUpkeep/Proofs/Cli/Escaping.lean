import AddonUpkeep.Proofs.Cli.Reporting
import AddonUpkeep.Proofs.Config.Faults

/-!
# How a run ends

A run ends with an exit code unless a fault escapes that nobody foresaw.  Before anything is
printed, such faults come from five places: a variable of the environment file, the file of addon
settings, a home that cannot be told, a command that the system does not start, and a list of addons
that is no text.  Behind that the console may refuse what is printed.  Everything else that fails
has the exit code 2.
-/

namespace AddonUpkeep.Cli

open AddonUpkeep.Kubectl

/-- The exit code of a run, unless a fault escapes.  Help and the version are no failures. -/
def Ending.exitCode? : Ending → Option Nat
  | .code number => some number
  | .stopped (.usage _) => some failureCode
  | .stopped .help | .stopped .version => some 0
  | .escaped _ => none

/-- A fault that nobody foresaw escapes from the run of a command line that was read, before
anything is printed. -/
inductive Escapes (arguments : Arguments) (surroundings : Surroundings) (replies : List Reply) : Prop
  | configuration (h : Unconfigurable arguments surroundings)
  | home {config : Config} {environment : Environment}
      (hconfigure : configure arguments surroundings = .ok (config, environment))
      (hhome : config.kubeconfigPath environment surroundings.accounts = .error .noHome)
  | client {config : Config} {environment : Environment} {kubeconfig : Option Path}
      {problem : StartProblem}
      (hconfigure : configure arguments surroundings = .ok (config, environment))
      (hpath : config.kubeconfigPath environment surroundings.accounts = .ok kubeconfig)
      (hrefused : replies.head? = some (.refused problem))
  | names {config : Config} {environment : Environment} {kubeconfig : Option Path}
      (hconfigure : configure arguments surroundings = .ok (config, environment))
      (hpath : config.kubeconfigPath environment surroundings.accounts = .ok kubeconfig)
      (hclient : (checkClient.runOn (startOf config surroundings replies)).1 = .ok ())
      (hnames : arguments.addons = .empty)

/-- The console refuses a part of what a record has to be printed. -/
def Record.IsRefused (shows : String → Bool) (record : Record) : Prop :=
  ∃ item ∈ record.items, ∃ markup ∈ item.markups, shows markup = false

theorem Record.all_shown_iff {shows : String → Bool} {record : Record} :
    record.items.all (·.markups.all shows) = true ↔ ¬ record.IsRefused shows := by
  simp [Record.IsRefused]

theorem Record.printed_of_not_isRefused {shows : String → Bool} {record : Record}
    (h : ¬ record.IsRefused shows) : record.printed shows = record := if_pos (all_shown_iff.mpr h)

theorem Record.ending_printed {shows : String → Bool} {record : Record}
    (h : record.IsRefused shows) :
    (record.printed shows).ending = .escaped (.unforeseen .markup) := by
  unfold printed
  rw [if_neg fun hall ↦ all_shown_iff.mp hall h]

/-- When the command cannot be run, that is told, unless the system did not start it. -/
theorem isForeseen_of_checkClient {session : Session Transcript} {fault : Fault}
    (h : (checkClient.runOn session).1 = .error fault) :
    fault.isForeseen = false ↔
      ∃ problem, session.cluster.replies.head? = some (.refused problem) := by
  unfold checkClient at h
  rw [Task.runOn_bind, runOn_execute] at h
  cases hreplies : session.cluster.replies with
  | nil =>
    rw [hreplies] at h
    cases h
  | cons reply later =>
    rw [hreplies] at h
    cases reply with
    | timedOut =>
      obtain rfl := Except.error.inj h
      exact iff_of_false nofun nofun
    | missing =>
      obtain rfl := Except.error.inj h
      exact iff_of_false nofun nofun
    | refused problem =>
      obtain rfl := Except.error.inj h
      refine iff_of_true ?_ ⟨problem, rfl⟩
      cases problem <;> rfl
    | finished code output errors =>
      obtain ⟨text, hresult⟩ : ∃ text, Reply.result none (.finished code output errors) =
          .ok ⟨code, text, errors⟩ := by
        cases output with
        | text content => exact ⟨content, rfl⟩
        | echo => exact ⟨_, rfl⟩
      rw [List.headD_cons, hresult] at h
      dsimp only at h
      split at h
      · obtain rfl := Except.error.inj h
        exact iff_of_false nofun nofun
      · cases h

/-- A system that does not start the command keeps it from working. -/
theorem checkClient_of_refused {session : Session Transcript} {problem : StartProblem}
    (h : session.cluster.replies.head? = some (.refused problem)) :
    (checkClient.runOn session).1 = .error problem.fault := by
  unfold checkClient
  rw [Task.runOn_bind, runOn_execute, List.headD_eq_head?_getD, h]
  rfl

section Command

variable {command : Command} {arguments : Arguments} {config : Config}
  {kubeconfig : Option Path} {session middle : Session Transcript}

theorem runCommand_of_empty (hclient : checkClient.runOn session = (.ok (), middle))
    (hnames : arguments.addons = .empty) :
    (runCommand command arguments config kubeconfig).runOn session =
      (.error (.unforeseen .wrongShape), middle) := by
  unfold runCommand
  rw [Task.runOn_bind_of_ok hclient, hnames]
  rfl

/-- A command on a list of addons reports its summary once kubectl works. -/
theorem runCommand_of_text (command : Command) {list : String}
    (hclient : checkClient.runOn session = (.ok (), middle))
    (hnames : arguments.addons = .text list) :
    ∃ items code after,
      (runCommand command arguments config kubeconfig).runOn session = (.ok (items, code), after) ∧
      Reported command arguments config kubeconfig list middle items code := by
  rcases @runCommand_cases command arguments config kubeconfig _ _ hclient with
    ⟨list', items, code, after, hlist, hrun, hreported⟩ | ⟨fault, after, -, hrun⟩
  · obtain rfl : list = list' := Value.text.inj (hnames.symm.trans hlist)
    exact ⟨items, code, after, hrun, hreported⟩
  · unfold runCommand at hrun
    rw [Task.runOn_bind_of_ok hclient, hnames] at hrun
    cases command <;> cases hrun

/-- The exit codes of a report. -/
theorem Reported.code_mem {list : String} {items : List Item} {code : Nat}
    (h : Reported command arguments config kubeconfig list session items code) :
    code ∈ [0, 1, failureCode] := by
  cases command with
  | check =>
    obtain ⟨title, rows, -, -, htwo, hone, hzero⟩ := h
    by_cases hfailed : ∃ row ∈ rows, Shows .failed row
    · simp [failureCode, htwo.mpr hfailed]
    · by_cases houtdated : ∃ row ∈ rows, Shows .outdated row
      · simp [hone.mpr ⟨hfailed, houtdated⟩]
      · simp [hzero.mpr ⟨hfailed, houtdated⟩]
  | update =>
    obtain ⟨title, rows, hint, -, -, htwo, hzero, -⟩ := h
    by_cases hfailed : ∃ row ∈ rows, Shows .failed row
    · simp [failureCode, htwo.mpr hfailed]
    · simp [hzero.mpr hfailed]

end Command

/-- Whether kubectl works is found out of a session whatever was logged before. -/
theorem checkClient_of_noting {start : Session Transcript} {outcome : Except Fault Unit}
    (h : (checkClient.runOn start).1 = outcome) (log : Log) :
    ∃ log', checkClient.runOn (start.noting log) =
      (outcome, { (checkClient.runOn start).2 with log := log' }) := by
  obtain ⟨hsame, hcluster, hhost⟩ := checkClient_noting start log
  rcases hnoted : checkClient.runOn (start.noting log) with ⟨outcome', cluster, log', host⟩
  rw [hnoted] at hsame hcluster hhost
  obtain rfl : outcome' = outcome := hsame.trans h
  obtain rfl : cluster = (checkClient.runOn start).2.cluster := hcluster
  obtain rfl : host = (checkClient.runOn start).2.host := hhost
  exact ⟨log', rfl⟩

section Run

variable {words : List String} {surroundings : Surroundings} {replies : List Reply}
  {command : Command} {arguments : Arguments} {config : Config} {environment : Environment}
  {kubeconfig : Option Path}

theorem carryOut_of_stop {stop : Stop} (hparse : parse words = .error stop) :
    carryOut words surroundings replies =
      { transcript := { replies }, ending := .stopped stop } := by
  unfold carryOut
  simp only [hparse]

theorem carryOut_of_configuration_fault (replies : List Reply) {fault : Fault}
    (hparse : parse words = .ok (command, arguments))
    (hconfigure : configure arguments surroundings = .error fault) :
    (fault.isForeseen = true → (carryOut words surroundings replies).ending = .code failureCode ∧
      (carryOut words surroundings replies).items = [configurationFault fault]) ∧
    (fault.isForeseen = false → (carryOut words surroundings replies).ending = .escaped fault) := by
  unfold carryOut
  simp only [hparse, hconfigure]
  cases fault.isForeseen with
  | true => exact ⟨fun _ ↦ ⟨rfl, rfl⟩, nofun⟩
  | false => exact ⟨nofun, fun _ ↦ rfl⟩

/-- A run with a configuration is the record of its work. -/
theorem carryOut_of_work (replies : List Reply) (hparse : parse words = .ok (command, arguments))
    (hconfigure : configure arguments surroundings = .ok (config, environment)) :
    ∃ log, carryOut words surroundings replies =
      match config.kubeconfigPath environment surroundings.accounts with
      | .error fault => Record.ofWork (startOf config surroundings replies) (.error fault)
      | .ok kubeconfig =>
        let ended := (runCommand command arguments config kubeconfig).runOn
          ((startOf config surroundings replies).noting log)
        Record.ofWork ended.2 ended.1 := by
  let start := startOf config surroundings replies
  have hrun := carryOut_of_configured replies hparse hconfigure
  obtain ⟨log, hwork⟩ := runOn_work command arguments config environment surroundings.accounts start
  refine ⟨log, ?_⟩
  change _ = Record.ofWork
    ((work command arguments config environment surroundings.accounts).runOn start).2
    ((work command arguments config environment surroundings.accounts).runOn start).1 at hrun
  rw [hrun, hwork]
  cases config.kubeconfigPath environment surroundings.accounts with
  | error fault => rfl
  | ok kubeconfig => rfl

section Configured

variable (hparse : parse words = .ok (command, arguments))
  (hconfigure : configure arguments surroundings = .ok (config, environment))

include hparse hconfigure

theorem carryOut_of_home_fault
    (hhome : config.kubeconfigPath environment surroundings.accounts = .error .noHome) :
    (carryOut words surroundings replies).ending = .escaped .noHome := by
  obtain ⟨log, hrun⟩ := carryOut_of_work replies hparse hconfigure
  rw [hrun, hhome]
  rfl

variable (hpath : config.kubeconfigPath environment surroundings.accounts = .ok kubeconfig)

include hpath

theorem carryOut_of_client_fault {fault : Fault}
    (hclient : (checkClient.runOn (startOf config surroundings replies)).1 = .error fault) :
    (fault.isForeseen = true → (carryOut words surroundings replies).ending = .code failureCode ∧
      (carryOut words surroundings replies).items = [workFault fault]) ∧
    (fault.isForeseen = false → (carryOut words surroundings replies).ending = .escaped fault) := by
  obtain ⟨log, hrun⟩ := carryOut_of_work replies hparse hconfigure
  obtain ⟨log', hnoted⟩ := checkClient_of_noting hclient log
  have hstops : (runCommand command arguments config kubeconfig).runOn _ = _ :=
    Task.runOn_bind_of_error hnoted
  rw [hrun, hpath]
  dsimp only
  rw [hstops, Record.ofWork]
  cases fault.isForeseen with
  | true => exact ⟨fun _ ↦ ⟨rfl, rfl⟩, nofun⟩
  | false => exact ⟨nofun, fun _ ↦ rfl⟩

theorem carryOut_of_empty_names
    (hclient : (checkClient.runOn (startOf config surroundings replies)).1 = .ok ())
    (hnames : arguments.addons = .empty) :
    (carryOut words surroundings replies).ending = .escaped (.unforeseen .wrongShape) := by
  obtain ⟨log, hrun⟩ := carryOut_of_work replies hparse hconfigure
  obtain ⟨log', hnoted⟩ := checkClient_of_noting hclient log
  rw [hrun, hpath]
  dsimp only
  rw [runCommand_of_empty hnoted hnames]
  rfl

theorem carryOut_of_names {list : String}
    (hclient : (checkClient.runOn (startOf config surroundings replies)).1 = .ok ())
    (hnames : arguments.addons = .text list) :
    ∃ log code, (carryOut words surroundings replies).ending = .code code ∧
      Reported command arguments config kubeconfig list
        { (checkClient.runOn (startOf config surroundings replies)).2 with log }
        (carryOut words surroundings replies).items code := by
  obtain ⟨log, hrun⟩ := carryOut_of_work replies hparse hconfigure
  obtain ⟨log', hnoted⟩ := checkClient_of_noting hclient log
  obtain ⟨items, code, after, hcommand, hreported⟩ :=
    runCommand_of_text command hnoted hnames
  rw [hrun, hpath]
  dsimp only
  rw [hcommand]
  exact ⟨log', code, rfl, hreported⟩

end Configured

/-- With a configuration and the path of the kubeconfig file, a fault escapes when the system does
not start the command, or when it works and the list of addons is no text. -/
theorem client_of_escapes (hconfigure : configure arguments surroundings = .ok (config, environment))
    (hpath : config.kubeconfigPath environment surroundings.accounts = .ok kubeconfig)
    (h : Escapes arguments surroundings replies) :
    (∃ problem, replies.head? = some (.refused problem)) ∨
      (checkClient.runOn (startOf config surroundings replies)).1 = .ok () ∧
        arguments.addons = .empty := by
  cases h with
  | configuration hrefused =>
    obtain ⟨fault, hfault, -⟩ := configure_unforeseen_iff.mpr hrefused
    cases hconfigure.symm.trans hfault
  | home hconfigure' hhome =>
    cases hconfigure.symm.trans hconfigure'
    cases hpath.symm.trans hhome
  | client _ _ hrefused => exact .inl ⟨_, hrefused⟩
  | names hconfigure' _ hclient hnames =>
    cases hconfigure.symm.trans hconfigure'
    exact .inr ⟨hclient, hnames⟩

theorem unforeseen_of_escapes {fault : Fault}
    (hconfigure : configure arguments surroundings = .error fault)
    (h : Escapes arguments surroundings replies) : fault.isForeseen = false := by
  cases h with
  | configuration hrefused =>
    obtain ⟨fault', hfault, hunforeseen⟩ := configure_unforeseen_iff.mpr hrefused
    cases hconfigure.symm.trans hfault
    exact hunforeseen
  | home hconfigure' _ => cases hconfigure.symm.trans hconfigure'
  | client hconfigure' _ _ => cases hconfigure.symm.trans hconfigure'
  | names hconfigure' _ _ _ => cases hconfigure.symm.trans hconfigure'

/-- The run of a command line that was read comes to one of two ends before anything is printed: a
fault escapes, or it has an exit code. -/
theorem ending_of_parse (surroundings : Surroundings) (replies : List Reply)
    (hparse : parse words = .ok (command, arguments)) :
    (Escapes arguments surroundings replies ∧
      ∃ fault, (carryOut words surroundings replies).ending = .escaped fault) ∨
    (¬ Escapes arguments surroundings replies ∧ ∃ code ∈ [0, 1, failureCode],
      (carryOut words surroundings replies).ending = .code code) := by
  cases hconfigure : configure arguments surroundings with
  | error fault =>
    obtain ⟨hforeseen, hunforeseen⟩ :=
      carryOut_of_configuration_fault replies hparse hconfigure
    cases hfault : fault.isForeseen with
    | false =>
      exact .inl ⟨.configuration (configure_unforeseen_iff.mp ⟨fault, hconfigure, hfault⟩), fault,
        hunforeseen hfault⟩
    | true =>
      refine .inr ⟨fun hescapes ↦ ?_, failureCode, by simp, (hforeseen hfault).1⟩
      rw [unforeseen_of_escapes hconfigure hescapes] at hfault
      cases hfault
  | ok configured =>
    obtain ⟨config, environment⟩ := configured
    cases hpath : config.kubeconfigPath environment surroundings.accounts with
    | error fault =>
      cases eq_noHome_of_kubeconfigPath hpath
      exact .inl ⟨.home hconfigure hpath, _, carryOut_of_home_fault hparse hconfigure hpath⟩
    | ok kubeconfig =>
      have hescapes := @client_of_escapes surroundings replies arguments config environment
        kubeconfig hconfigure hpath
      cases hclient : (checkClient.runOn (startOf config surroundings replies)).1 with
      | error fault =>
        have hrefused : fault.isForeseen = false ↔
          ∃ problem, replies.head? = some (.refused problem) := isForeseen_of_checkClient hclient
        obtain ⟨hforeseen, hunforeseen⟩ :=
          carryOut_of_client_fault hparse hconfigure hpath hclient
        cases hfault : fault.isForeseen with
        | false =>
          obtain ⟨problem, hproblem⟩ := hrefused.mp hfault
          exact .inl ⟨.client hconfigure hpath hproblem, fault, hunforeseen hfault⟩
        | true =>
          refine .inr ⟨fun h ↦ ?_, failureCode, by simp, (hforeseen hfault).1⟩
          rcases hescapes h with hproblem | ⟨hworks, -⟩
          · rw [hrefused.mpr hproblem] at hfault
            cases hfault
          · cases hclient.symm.trans hworks
      | ok _ =>
        cases hnames : arguments.addons with
        | empty =>
          exact .inl ⟨.names hconfigure hpath hclient hnames, _,
            carryOut_of_empty_names hparse hconfigure hpath hclient hnames⟩
        | text list =>
          obtain ⟨log, code, hcode, hreported⟩ :=
            carryOut_of_names hparse hconfigure hpath hclient hnames
          refine .inr ⟨fun h ↦ ?_, code, hreported.code_mem, hcode⟩
          rcases hescapes h with ⟨problem, hproblem⟩ | ⟨-, hempty⟩
          · have hbroken : (checkClient.runOn (startOf config surroundings replies)).1 = _ :=
              checkClient_of_refused hproblem
            cases hclient.symm.trans hbroken
          · cases hnames.symm.trans hempty

/-- Up to what it prints, a run has one of the exit codes unless it was read and a fault escapes. -/
theorem exitCode?_carryOut (words : List String) (surroundings : Surroundings)
    (replies : List Reply) :
    let told := carryOut words surroundings replies
    (told.ending.exitCode? = none ↔ ∃ command arguments,
      parse words = .ok (command, arguments) ∧ Escapes arguments surroundings replies) ∧
    ∀ code, told.ending.exitCode? = some code → code ∈ [0, 1, failureCode] := by
  intro told
  cases hparse : parse words with
  | error stop =>
    have hending : told.ending = .stopped stop := congrArg Record.ending (carryOut_of_stop hparse)
    rw [hending]
    refine ⟨?_, fun code hcode ↦ ?_⟩
    · cases stop <;> simp [Ending.exitCode?]
    · cases stop <;> cases hcode <;> decide
  | ok found =>
    obtain ⟨command, arguments⟩ := found
    rcases ending_of_parse surroundings replies hparse with
      ⟨hescapes, fault, hending⟩ | ⟨hescapes, number, hmem, hending⟩
    · rw [show told.ending = _ from hending]
      exact ⟨iff_of_true rfl ⟨command, arguments, rfl, hescapes⟩, nofun⟩
    · rw [show told.ending = _ from hending]
      refine ⟨iff_of_false nofun ?_, fun code hcode ↦ ?_⟩
      · rintro ⟨_, _, heq, h⟩
        cases heq
        exact hescapes h
      · cases hcode
        exact hmem

end Run

/-- A command line that is not read prints nothing, so the console has nothing to refuse. -/
theorem exists_parse_of_isRefused {words : List String} {surroundings : Surroundings}
    {replies : List Reply} (h : (carryOut words surroundings replies).IsRefused surroundings.shows) :
    ∃ command arguments, parse words = .ok (command, arguments) := by
  cases hparse : parse words with
  | error stop =>
    rw [carryOut_of_stop hparse] at h
    obtain ⟨item, hitem, -⟩ := h
    cases hitem
  | ok found => exact ⟨_, _, rfl⟩

/-- A run has one of the exit codes 0, 1 and 2, unless the command line is read and a fault escapes
from its run, or the console refuses what it prints.  A fault of the configuration that is foreseen
has the code 2 and is printed, and so has the fault of a kubectl that cannot be run, unless the
system did not start it.  Otherwise the code says what the table shows, which is 2 when some addon
failed. -/
theorem run_escapes_iff (words : List String) (surroundings : Surroundings)
    (replies : List Reply) :
    let record := run words surroundings replies
    let told := carryOut words surroundings replies
    (record.ending.exitCode? = none ↔ ∃ command arguments,
      parse words = .ok (command, arguments) ∧
        (Escapes arguments surroundings replies ∨ told.IsRefused surroundings.shows)) ∧
    (∀ code, record.ending.exitCode? = some code → code ∈ [0, 1, 2] ∧ record = told) ∧
    ∀ command arguments, parse words = .ok (command, arguments) →
      (∀ fault, configure arguments surroundings = .error fault → fault.isForeseen = true →
        told.ending = .code 2 ∧ told.items = [configurationFault fault]) ∧
      ∀ config environment kubeconfig,
        configure arguments surroundings = .ok (config, environment) →
        config.kubeconfigPath environment surroundings.accounts = .ok kubeconfig →
          let checked := checkClient.runOn (startOf config surroundings replies)
          (∀ fault, checked.1 = .error fault → fault.isForeseen = true →
            told.ending = .code 2 ∧ told.items = [workFault fault]) ∧
          ∀ list, checked.1 = .ok () → arguments.addons = .text list → ∃ log code,
            told.ending = .code code ∧ Reported command arguments config kubeconfig list
              { checked.2 with log } told.items code := by
  intro record told
  obtain ⟨hnone, hcodes⟩ := exitCode?_carryOut words surroundings replies
  have hrecord : record = told.printed surroundings.shows := rfl
  refine ⟨?_, ?_, fun command arguments hparse ↦ ⟨fun fault hconfigure ↦
    (carryOut_of_configuration_fault replies hparse hconfigure).1, fun config environment kubeconfig
    hconfigure hpath ↦ ⟨fun fault hclient ↦
      (carryOut_of_client_fault hparse hconfigure hpath hclient).1, fun list ↦
      carryOut_of_names hparse hconfigure hpath⟩⟩⟩
  · by_cases hrefused : told.IsRefused surroundings.shows
    · rw [hrecord, Record.ending_printed hrefused]
      obtain ⟨command, arguments, hparse⟩ := exists_parse_of_isRefused hrefused
      exact iff_of_true rfl ⟨command, arguments, hparse, .inr hrefused⟩
    · rw [hrecord, Record.printed_of_not_isRefused hrefused, hnone]
      simp only [hrefused, or_false]
  · intro code hcode
    by_cases hrefused : told.IsRefused surroundings.shows
    · rw [hrecord, Record.ending_printed hrefused] at hcode
      cases hcode
    · have hsame : record = told := Record.printed_of_not_isRefused hrefused
      rw [hsame] at hcode
      exact ⟨hcodes code hcode, hsame⟩

/-- Without kubectl a check has the exit code 2, and so no fault escapes from it. -/
theorem run_escapes_not_without_client :
    let words := ["check", "-k", "1.27"]
    let surroundings : Surroundings := { environment := [] }
    let arguments : Arguments := { controlPlaneVersion := some (.text "1.27") }
    let record := run words surroundings [.missing]
    parse words = .ok (.check, arguments) ∧ record.ending = .code 2 ∧
      record.items = [workFault (.command .notInstalled)] ∧
      ¬ Escapes arguments surroundings [.missing] := by
  intro words surroundings arguments record
  have hparse : parse words = .ok (.check, arguments) :=
    toOption_eq_some_iff.mp (by decide +kernel)
  obtain ⟨hescapes, hcodes, hfailures⟩ := run_escapes_iff words surroundings [.missing]
  obtain ⟨-, hconfigured⟩ := hfailures _ _ hparse
  obtain ⟨config, environment, hconfigure, hpath⟩ : ∃ config environment,
      configure arguments surroundings = .ok (config, environment) ∧
        config.kubeconfigPath environment surroundings.accounts = .ok none := by
    have hread : (match configure arguments surroundings with
        | .ok (config, environment) =>
          (config.kubeconfigPath environment surroundings.accounts).toOption
        | .error _ => none) = some none := by decide +kernel
    split at hread
    · next config environment hconfigure =>
      exact ⟨config, environment, hconfigure, toOption_eq_some_iff.mp hread⟩
    · cases hread
  obtain ⟨hending, hitems⟩ := (hconfigured config environment none hconfigure hpath).1 _ rfl rfl
  have hcode : record.ending.exitCode? = some 2 := by decide +kernel
  obtain ⟨-, hsame⟩ := hcodes 2 hcode
  rw [← hsame] at hending hitems
  refine ⟨hparse, hending, hitems, fun h ↦ ?_⟩
  have hnone := hescapes.mpr ⟨_, _, hparse, .inl h⟩
  cases hcode.symm.trans hnone

/-- The home of an account that is not known cannot be told, a list of two dashes is no text, and a
console that reads a closing tag with nothing to close refuses the table with such a name.  None of
these runs has an exit code. -/
theorem run_escapes_unforeseen :
    let surroundings : Surroundings := {
      environment := [("HOME", "/home/tester")]
      shows := fun markup ↦ !Text.holds markup "[/x]" }
    let exitCode? words := (run words surroundings []).ending.exitCode?
    exitCode? ["--kubeconfig", "~nosuchuser/config", "check", "-k", "1.27"] = none ∧
      exitCode? ["check", "-k", "1.27", "--addons=--"] = none ∧
      exitCode? ["check", "-k", "1.27", "--addons", "[/x]"] = none := by
  decide +kernel

end AddonUpkeep.Cli
