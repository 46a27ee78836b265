import Assay.Proofs.Job
import Assay.Proofs.Request

/-!
# What the command does

With options in which something is wrong the command fails before anything takes place, apart
from a look at the clock. Otherwise it reports on all tasks or on none: it prints the results, which
say of each task what was reported on it, or the caller is turned away at one of the tasks, and
there are no results. This holds of all options but those with nothing wrong about them that ask for
more lanes than there is room for: with these the command crashes.
-/
namespace Assay.Command

open Json

/-- The command has failed: it shows the error and nothing else. -/
def Exit.failure (error : Error) : Exit := ⟨1, "", "Error: " ++ error.message ++ "\n"⟩

/-- The command has crashed for want of lanes. -/
def Exit.crashed : Exit := ⟨101, "", Task.tooManyLanes ++ "\n"⟩

/-- How the command ends when nothing is wrong with its options. -/
inductive Reports (environment : Environment) (options : Options)
    (history : List (Happening world)) : Exit → Prop
  /-- One document with the results is printed. The tasks that are named were run in order, and
  under each name the results hold the summary of the report on the last run of that task. The
  same document is the last file that is written, if a directory is given, and the other files are
  logs. -/
  | printed {job : Job} {completed : List Completed} {members entries : Members}
    {logs : List (String × String)}
    (made : Job.ofOptions environment options = .ok job)
    (completes : job.Completes completed history)
    (named : completed.map Completed.name = taskNames options.tasks)
    (results : members.get? "results" = some (.object entries))
    (once : entries.Ordered)
    (each : ∀ name, name ∈ entries.map Prod.fst ↔ name ∈ taskNames options.tasks)
    (held : ∀ name, entries.get? name = Members.last? name (completed.map Completed.entry))
    (files : written history =
      logs ++ fileIn options.directory resultsName (pretty (.object members)))
    (others : ∀ file ∈ logs, IsLog options.directory (taskNames options.tasks) file.1) :
    Reports environment options history ⟨0, pretty (.object members) ++ "\n", ""⟩
  /-- The caller was turned away. Nothing is printed, and no file with results is written, in
  whatever directory; the files are logs. -/
  | turnedAway {error : Error} (away : TurnedAway history error)
    (none : ∀ file ∈ written history, ∀ directory, file.1 ≠ Saving.join directory resultsName)
    (others : ∀ file ∈ written history,
      IsLog options.directory (taskNames options.tasks) file.1) :
    Reports environment options history (.failure error)

/-- How the command is to end. If anything is wrong with its options, it fails with the first such
thing, and nothing has taken place but looks at the clock: no request was posted and no file
written. Otherwise it reports on all tasks or was turned away. -/
def Accounts (environment : Environment) (options : Options) (history : List (Happening world))
    (exit : Exit) : Prop :=
  match options.fault? environment with
  | some error => exit = .failure error ∧ Idle history
  | none => Reports environment options history exit

/-- The options ask for more lanes than there is room for. -/
def Options.Crowded (options : Options) : Prop :=
  ∃ arguments, ModelArguments.ofText options.modelArguments = .ok arguments ∧
    ¬arguments.runSettings.Permitted

section

variable {environment : Environment} {options : Options} {σ : Type} {answer : Handler world σ}

/-- Options with something wrong about them are not evaluated. -/
theorem ensures_evaluate_of_fault {error : Error}
    (fault : options.fault? environment = some error) :
    Ensures answer (evaluate environment options) fun history result =>
      result = .error (.error error) ∧ Idle history := by
  have screened := Job.ofOptions_screened environment options
  rw [Options.fault?_eq] at fault
  rw [Screened] at screened
  rw [evaluate]
  cases obstacle : (options.obstacles environment).findSome? id with
  | some first =>
    rw [obstacle] at screened fault
    obtain rfl : first = error := Option.some.inj fault
    rw [screened, orHalt_error_bind]
    exact ensures_result ⟨rfl, List.forall_mem_nil _⟩
  | none =>
    rw [obstacle] at screened
    rw [obstacle, Option.none_or] at fault
    obtain ⟨job, made, obeys⟩ := screened
    obtain ⟨first, names, listed⟩ := List.exists_cons_of_ne_nil obeys.nonempty
    have known : first ∈ Catalogue.names := obeys.known first (listed ▸ List.mem_cons_self)
    rw [made, orHalt_ok_bind]
    by_cases limited : options.limit = some 0
    · rw [if_pos limited, ← obeys.tasks, listed] at fault
      obtain rfl : .noSamples first = error := Option.some.inj fault
      exact Job.ensures_run_of_limit_zero listed known (obeys.limit.trans limited)
    · rw [if_neg limited] at fault
      contradiction

/-- Options with nothing wrong about them are evaluated as a job that obeys them. -/
theorem exists_job_of_no_fault (none : options.fault? environment = none) :
    ∃ job : Job, Job.ofOptions environment options = .ok job ∧
      evaluate environment options = job.run ∧ job.Obeys options ∧ job.limit ≠ some 0 := by
  have screened := Job.ofOptions_screened environment options
  rw [Options.fault?_eq, Option.or_eq_none_iff] at none
  obtain ⟨clear, unlimited⟩ := none
  rw [Screened, clear] at screened
  obtain ⟨job, made, obeys⟩ := screened
  obtain ⟨first, names, listed⟩ := List.exists_cons_of_ne_nil obeys.nonempty
  refine ⟨job, made, by rw [evaluate, made, orHalt_ok_bind], obeys, fun limited => ?_⟩
  rw [if_pos (obeys.limit.symm.trans limited), ← obeys.tasks, listed] at unlimited
  contradiction

/-- The results as JSON are an object that holds the summaries. -/
theorem exists_members_of_results (results : Results) :
    ∃ members : Members, results.toJson = .object members ∧
      members.get? "results" = some (.object results.summaries) :=
  ⟨_, rfl, rfl⟩

/-- The settings of a job are those that the options ask for. -/
theorem Job.Obeys.permitted_iff {job : Job} (obeys : job.Obeys options) :
    job.settings.Permitted ↔ ¬options.Crowded := by
  obtain ⟨arguments, read, same⟩ := obeys.settings
  rw [Options.Crowded, read, same]
  simp

/-- A job that obeys its options and concludes ends the command with a report. -/
theorem reports_of_concludes {job : Job} {history : List (Happening world)}
    {result : Except Halt Results} (made : Job.ofOptions environment options = .ok job)
    (obeys : job.Obeys options) (concludes : job.Concludes history result) :
    Reports environment options history (.of result) := by
  cases result with
  | ok results =>
    obtain ⟨⟨completed, named, completes, summaries⟩, logs, files, others⟩ :=
      concludes.reported results rfl
    obtain ⟨members, document, found⟩ := exists_members_of_results results
    have ordered : results.summaries.Ordered := by
      rw [summaries]
      exact Members.Ordered.insertAll List.Pairwise.nil _
    have held : ∀ name, results.summaries.get? name =
        Members.last? name (completed.map Completed.entry) := by
      intro name
      rw [summaries, Members.get?_insertAll]
      exact Option.or_none
    have each : ∀ name, name ∈ results.summaries.map Prod.fst ↔
        name ∈ taskNames options.tasks := by
      intro name
      rw [← Members.get?_ne_none_iff, held, Members.last?_ne_none_iff, List.map_map,
        ← obeys.tasks, ← named]
      rfl
    rw [document, obeys.directory] at files
    rw [obeys.directory, obeys.tasks] at others
    rw [Exit.of, document]
    exact .printed made completes (named.trans obeys.tasks) found ordered each held files others
  | error halt =>
    obtain ⟨error, rfl, away⟩ := concludes.away halt rfl
    have others := concludes.logged _ rfl
    rw [obeys.directory, obeys.tasks] at others
    exact .turnedAway away (fun file wrote => (others file wrote).ne_results) others

/-- The command never reports by a crash. -/
theorem not_reports_crashed (history : List (Happening world)) :
    ¬Reports environment options history .crashed := by
  intro reports
  generalize crashed : Exit.crashed = exit at reports
  cases reports with
  | printed =>
    have same : (101 : UInt8) = 0 := congrArg Exit.code crashed
    exact absurd same (by decide)
  | turnedAway =>
    have same : (101 : UInt8) = 1 := congrArg Exit.code crashed
    exact absurd same (by decide)

end

section

variable (environment : Environment) {arguments : List String} {options : Options}
  (accepted : Invocation.ofArguments arguments = .evaluate options) {σ : Type}
  (answer : Handler world σ) (state : σ)

include accepted

/-- The command ends as its evaluation says, and nothing takes place after that. -/
theorem run_evaluate :
    ((run environment arguments).run answer state).1 =
        .of ((evaluate environment options).run.run answer state).1 ∧
      (run environment arguments).history answer state =
        (evaluate environment options).run.history answer state := by
  have shape : run environment arguments =
      (evaluate environment options).run.bind fun result => .done (.of result) := by
    rw [run, accepted]
    rfl
  rw [shape, Act.run_bind, Act.history_bind]
  exact ⟨rfl, List.append_nil _⟩

/-- With options that ask for more lanes than there is room for, and nothing else wrong about them,
the command crashes before anything takes place. -/
theorem run_of_crowded (sound : options.fault? environment = none) (crowded : options.Crowded) :
    ((run environment arguments).run answer state).1 = .crashed ∧
      Idle ((run environment arguments).history answer state) := by
  obtain ⟨ends, same⟩ := run_evaluate environment accepted answer state
  obtain ⟨job, -, evaluated, obeys, unlimited⟩ := exists_job_of_no_fault sound
  obtain ⟨first, names, listed⟩ := List.exists_cons_of_ne_nil obeys.nonempty
  have known : first ∈ Catalogue.names := obeys.known first (listed ▸ List.mem_cons_self)
  have many : ¬job.settings.Permitted := fun permitted => obeys.permitted_iff.1 permitted crowded
  rw [ends, same, evaluated]
  have ensures : Ensures answer job.run fun history result =>
      result = .error (.crash Task.tooManyLanes) ∧ Idle history :=
    Job.ensures_run_of_not_permitted listed known unlimited many
  obtain ⟨halted, idle⟩ := ensures state
  rw [halted]
  exact ⟨rfl, idle⟩

/-- With any other options the command ends as it is to, where files can be saved. -/
theorem run_accounts (saves : ∀ directory ∈ options.directory, CanSave answer directory)
    (roomy : options.fault? environment = none → ¬options.Crowded) :
    Accounts environment options ((run environment arguments).history answer state)
      ((run environment arguments).run answer state).1 := by
  obtain ⟨ends, same⟩ := run_evaluate environment accepted answer state
  rw [ends, same, Accounts]
  cases fault : options.fault? environment with
  | some error =>
    have ensures : Ensures answer (evaluate environment options) fun history result =>
        result = .error (.error error) ∧ Idle history := ensures_evaluate_of_fault fault
    obtain ⟨failed, idle⟩ := ensures state
    rw [failed]
    exact ⟨rfl, idle⟩
  | none =>
    obtain ⟨job, made, evaluated, obeys, unlimited⟩ := exists_job_of_no_fault fault
    have permitted := obeys.permitted_iff.2 (roomy fault)
    rw [← obeys.directory] at saves
    rw [evaluated]
    exact reports_of_concludes made obeys
      (Job.ensures_run saves unlimited permitted obeys.known state)

end

/-- What the command does with arguments that it accepts, where files can be saved. It ends as it is
to unless nothing is wrong with the options and they ask for more lanes than there is room for, and
then it crashes instead: nothing is printed, and nothing has taken place but looks at the clock. -/
theorem run_accounts_iff (environment : Environment) (arguments : List String) (options : Options)
    (accepted : Invocation.ofArguments arguments = .evaluate options) {σ : Type}
    (answer : Handler world σ)
    (saves : ∀ directory ∈ options.directory, CanSave answer directory) (state : σ) :
    let exit := ((run environment arguments).run answer state).1
    let history := (run environment arguments).history answer state
    (Accounts environment options history exit ↔
        (options.fault? environment = none → ¬options.Crowded)) ∧
      (options.fault? environment = none → options.Crowded → exit = .crashed ∧ Idle history) := by
  intro exit history
  have crashes := run_of_crowded environment accepted answer state
  refine ⟨⟨fun accounts sound crowded => ?_, ?_⟩, crashes⟩
  · rw [Accounts, sound] at accounts
    have crashed : exit = .crashed := (crashes sound crowded).1
    rw [crashed] at accounts
    exact not_reports_crashed _ accounts
  · exact run_accounts environment accepted answer state saves

/-- Options that name tasks and a plain model, with arguments for the model, and a directory if
there is to be a log of samples. -/
def plainOptions (tasks arguments : String) (directory : Option String) : Options where
  tasks := tasks
  model := "rest_mockllm/m"
  modelArguments := arguments
  sampling := ""
  graderModel := none
  graderArguments := ""
  limit := none
  directory := directory
  logging := directory.isSome

/-- Nothing is wrong with these options where there are tasks and the arguments can be read. -/
theorem fault?_plainOptions {tasks text : String} {arguments : ModelArguments}
    (named : taskNames tasks ≠ []) (known : ∀ name ∈ taskNames tasks, name ∈ Catalogue.names)
    (read : ModelArguments.ofText text = .ok arguments) (directory : Option String) :
    (plainOptions tasks text directory).fault? {} = none := by
  have model : Endpoint.named {} "rest_mockllm/m" arguments {} =
      .ok (.plain (.connect "m" arguments.address arguments.timeout)) := by
    simp [Endpoint.named, Text.cutFirst, Provider.all, Provider.name, Provider.connect]
  rw [Options.fault?, Options.faults, Options.obstacles]
  simpa [plainOptions, named, read, Except.bind, model, errorOf?, samplingOf] using known

/-- Arguments that name one task twice. -/
def repeatedArguments : List String :=
  ["--tasks", "us_government_knowledge,us_government_knowledge", "--model", "rest_mockllm/m",
    "--log-samples", "--output-path=out"]

/-- Options that name one task twice. -/
def repeated : Options :=
  plainOptions "us_government_knowledge,us_government_knowledge" "" (some "out")

/-- Where no request is answered, a task that is named twice is reported on. -/
theorem run_accounts_iff_repeated :
    Invocation.ofArguments repeatedArguments = .evaluate repeated ∧
      (∀ directory ∈ repeated.directory, CanSave Endpoint.Chat.deserted directory) ∧
      repeated.fault? {} = none ∧ ¬repeated.Crowded ∧
      Reports {} repeated ((run {} repeatedArguments).history Endpoint.Chat.deserted ())
        ((run {} repeatedArguments).run Endpoint.Chat.deserted ()).1 ∧
      ((run {} repeatedArguments).run Endpoint.Chat.deserted ()).1.code = 0 := by
  have accepted : Invocation.ofArguments repeatedArguments = .evaluate repeated := by
    simp [repeatedArguments, Invocation.ofArguments, read, longOption?, isOption, Key.all,
      Key.name, Given.add?, Given.value?, Given.finish, Key.admits, Text.cutFirst, repeated,
      plainOptions]
  have saves : ∀ directory ∈ repeated.directory, CanSave Endpoint.Chat.deserted directory := by
    intro directory given state name text
    obtain rfl : "out" = directory := Option.some.inj given
    rfl
  have arguments : ModelArguments.ofText "" = .ok {} := rfl
  have sound : repeated.fault? {} = none :=
    fault?_plainOptions (by decide) (by decide) arguments _
  have roomy : ¬repeated.Crowded := by
    rintro ⟨others, read, crowded⟩
    obtain rfl := Except.ok.inj (arguments.symm.trans read)
    exact crowded (by decide)
  have accounts := (run_accounts_iff {} repeatedArguments repeated accepted
    Endpoint.Chat.deserted saves ()).1.2 fun _ => roomy
  rw [Accounts, sound] at accounts
  refine ⟨accepted, saves, sound, roomy, accounts, ?_⟩
  generalize ((run {} repeatedArguments).run Endpoint.Chat.deserted ()).1 = exit at accounts
  -- Nobody is turned away where nothing is answered, so that only one way to end is left.
  cases accounts with
  | printed => rfl
  | turnedAway away =>
    obtain ⟨connection, request, body, answered, -⟩ := away
    obtain ⟨state, impossible⟩ := Act.answer_of_mem_history answered
    contradiction

/-- Arguments that ask for as many lanes as can be asked for. -/
def crowdedArguments : List String :=
  ["--tasks", "us_government_knowledge", "--model", "rest_mockllm/m",
    "--model-args", "max_connections=18446744073709551615"]

/-- Options that ask for as many lanes as can be asked for. -/
def crowded : Options :=
  plainOptions "us_government_knowledge" "max_connections=18446744073709551615" none

/-- With nothing wrong about its options but that they ask for more lanes than there is room for,
the command neither prints results nor says that the caller was turned away. -/
theorem not_accounts_crowded :
    Invocation.ofArguments crowdedArguments = .evaluate crowded ∧ crowded.fault? {} = none ∧
      ((run {} crowdedArguments).run Endpoint.Chat.deserted ()).1 = .crashed ∧
      ¬Accounts {} crowded ((run {} crowdedArguments).history Endpoint.Chat.deserted ())
        ((run {} crowdedArguments).run Endpoint.Chat.deserted ()).1 := by
  have accepted : Invocation.ofArguments crowdedArguments = .evaluate crowded := by
    simp [crowdedArguments, Invocation.ofArguments, read, longOption?, isOption, Key.all,
      Key.name, Given.add?, Given.value?, Given.finish, Key.admits, Text.cutFirst, crowded,
      plainOptions]
  have arguments : ModelArguments.ofText "max_connections=18446744073709551615" =
      .ok { maxConnections := 18446744073709551615 } := rfl
  have sound : crowded.fault? {} = none :=
    fault?_plainOptions (by decide) (by decide) arguments _
  have crowds : crowded.Crowded := ⟨_, arguments, by decide⟩
  obtain ⟨crashed, -⟩ := run_of_crowded {} accepted Endpoint.Chat.deserted () sound crowds
  refine ⟨accepted, sound, crashed, fun accounts => ?_⟩
  rw [Accounts, sound, crashed] at accounts
  exact not_reports_crashed _ accounts

end Assay.Command
