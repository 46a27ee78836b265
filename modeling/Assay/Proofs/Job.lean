import Assay.Proofs.Members
import Assay.Proofs.Options
import Assay.Proofs.Service

/-!
# What a job does

A job that has samples, and room for its lanes, reports on all of its tasks or on none: either every
task is run, and the results are saved once, after everything else, or the caller is turned away at
one of the tasks, and there are no results. What is in the results was reported by runs that have
taken place. The files that are there before the results are logs of tasks. A job that has no
samples or no room for its lanes halts at its first task, before anything takes place but looks at
the clock.
-/
namespace Assay.Command

open Json

/-! ## Files -/

/-- Every file can be saved in a directory. -/
def CanSave {σ : Type} (answer : Handler world σ) (directory : String) : Prop :=
  ∀ state name text, ((World.save directory name text).run answer state).1 = .ok ()

/-- The file that is saved with a text, if there is a directory for it. -/
def fileIn (directory : Option String) (name text : String) : List (String × String) :=
  directory.toList.map fun parent => (Saving.join parent name, text)

/-- A path is that of the log of one of some tasks, in the directory if there is one. -/
def IsLog (directory : Option String) (tasks : List String) (path : String) : Prop :=
  ∃ parent ∈ directory, ∃ name ∈ tasks, path = Saving.join parent (logName name)

/-- The path of a file ends with its name. -/
theorem exists_toList_join (directory name : String) :
    ∃ before, (Saving.join directory name).toList = before ++ name.toList := by
  rw [Saving.join]
  split
  · exact ⟨directory.toList, String.toList_append⟩
  · exact ⟨directory.toList ++ "/".toList, by simp [String.toList_append]⟩

/-- The log of a task is not the file of the results, in whatever directory that is. -/
theorem IsLog.ne_results {directory : Option String} {tasks : List String} {path : String}
    (isLog : IsLog directory tasks path) (other : String) :
    path ≠ Saving.join other resultsName := by
  obtain ⟨parent, -, name, -, rfl⟩ := isLog
  intro same
  obtain ⟨before, log⟩ := exists_toList_join parent (logName name)
  obtain ⟨ahead, results⟩ := exists_toList_join other resultsName
  have ends : (before ++ (logName name).toList).getLast? =
      (ahead ++ resultsName.toList).getLast? := by
    rw [← log, ← results, same]
  have line : ".jsonl".toList.getLast? = some 'l' := by decide
  have whole : resultsName.toList.getLast? = some 'n' := by decide
  simp only [logName, String.toList_append, List.getLast?_append, line, whole,
    Option.some_or] at ends
  contradiction

/-- Nothing takes place but looks at the clock. -/
def Idle (history : List (Happening world)) : Prop :=
  ∀ happening ∈ history, happening.event = WorldEvent.now

/-- Looks at the clock after looks at the clock are no more than that. -/
theorem Idle.append {first second : List (Happening world)} (idle : Idle first)
    (idle' : Idle second) : Idle (first ++ second) :=
  List.forall_mem_append.2 ⟨idle, idle'⟩

/-- Looks at the clock write no file. -/
theorem Idle.written_eq_nil {history : List (Happening world)} (idle : Idle history) :
    written history = [] := by
  refine List.filterMap_eq_nil_iff.2 fun happening among => ?_
  rw [idle happening among]
  rfl

/-- A look at the clock takes place before what follows it. -/
theorem ensures_after_now {α σ : Type} {answer : Handler world σ}
    {next : Duration → ExceptT Halt (Act world) α}
    {holds : List (Happening world) → Except Halt α → Prop}
    (went : ∀ early, Idle early → ∀ time, Ensures answer (next time) fun later result =>
      holds (early ++ later) result) :
    Ensures answer ((liftM World.now : ExceptT Halt (Act world) Duration) >>= next) holds := by
  have clock : Ensures answer (liftM World.now : ExceptT Halt (Act world) Duration)
      fun history result => Idle history ∧ ∀ halt, result ≠ .error halt := by
    refine ensures_lift World.now fun state => ⟨fun happening among => ?_, fun halt => nofun⟩
    obtain rfl := List.mem_singleton.1 among
    rfl
  exact clock.bind (fun history halt idle => absurd rfl (idle.2 halt))
    fun early time idle => went early idle.1 time

/-- A program goes on at once with a value that is there. -/
theorem orHalt_ok_bind {α β : Type} (value : α) (next : α → ExceptT Halt (Act world) β) :
    orHalt (.ok value) >>= next = next value := rfl

/-- A program halts at once with an error that is there. -/
theorem orHalt_error_bind {α β : Type} (error : Error) (next : α → ExceptT Halt (Act world) β) :
    orHalt (.error error) >>= next = ExceptT.mk (.done (.error (.error error))) := rfl

namespace Job

variable {job : Job} {σ : Type} {answer : Handler world σ}

/-- A job saves a file in its directory, if it has one. -/
theorem ensures_save (saves : ∀ directory ∈ job.directory, CanSave answer directory)
    (name text : String) :
    Ensures answer (job.save name text) fun history result =>
      result = .ok () ∧ written history = fileIn job.directory name text := by
  rw [save]
  cases given : job.directory with
  | none => exact ensures_result ⟨rfl, rfl⟩
  | some directory =>
    have saved : Ensures answer (liftM (World.save directory name text) :
        ExceptT Halt (Act world) (Except FileFault Unit)) fun history result =>
        result = .ok (.ok ()) ∧ written history = [(Saving.join directory name, text)] := by
      refine ensures_lift _ fun state => ?_
      have done := saves directory given state name text
      exact ⟨congrArg _ done, World.written_save done⟩
    refine saved.bind (fun history halt here => nomatch here.1) fun history outcome here => ?_
    obtain rfl := Except.ok.inj here.1
    refine ensures_result ⟨rfl, ?_⟩
    rw [List.append_nil]
    exact here.2

/-- A job saves the log of one of its tasks, if it keeps logs. -/
theorem ensures_save_log (saves : ∀ directory ∈ job.directory, CanSave answer directory)
    {name : String} (among : name ∈ job.tasks) (text : String) :
    Ensures answer (if job.logging then job.save (logName name) text else pure ())
      fun history result => result = .ok () ∧
        ∀ file ∈ written history, IsLog job.directory job.tasks file.1 := by
  cases job.logging with
  | false => exact ensures_result ⟨rfl, nofun⟩
  | true =>
    refine (ensures_save saves _ _).mono fun history result saved => ⟨saved.1, ?_⟩
    intro file wrote
    rw [saved.2] at wrote
    obtain ⟨parent, given, rfl⟩ := List.mem_map.1 wrote
    exact ⟨parent, Option.mem_toList.1 given, name, among, rfl⟩

/-! ## One task -/

/-- Where there is room for the lanes, running a task writes no file, does not crash and fails only
when the caller is turned away. -/
theorem ensures_runTask {task : Task} (nonempty : task.selection job.limit ≠ [])
    (permitted : job.settings.Permitted) :
    Ensures answer (job.runTask task) fun history result =>
      written history = [] ∧ FailsOnlyAway history result := by
  have ran : Ensures answer (ExceptT.mk ((task.launch (fun party => (job.endpoints party).profile)
      job.settings job.sampling job.limit job.logging).interpret (Endpoint.serve job.endpoints)))
      fun history result => written history = [] ∧ FailsOnlyAway history result := by
    intro state
    exact ⟨(Endpoint.keepsFiles_interpret_serve _).written_eq_nil answer state,
      Endpoint.failsOnlyAway_launch answer state nonempty permitted⟩
  rw [runTask]
  refine ensures_after_now fun early idle start => ?_
  refine ran.bind (fun middle halt failed => ?_) fun middle report went => ?_
  · exact ⟨by simp [idle.written_eq_nil, failed.1], failed.2.error.append early⟩
  · refine ensures_after_now fun late idle' finish => ensures_result ⟨?_, nofun⟩
    simp [idle.written_eq_nil, went.1, idle'.written_eq_nil]

/-- Where there is no room for the lanes, running a task that has a sample is a crash, and nothing
takes place. -/
theorem ensures_runTask_of_not_permitted {task : Task} (nonempty : task.selection job.limit ≠ [])
    (crowded : ¬job.settings.Permitted) :
    Ensures answer (job.runTask task) fun history result =>
      result = .error (.crash Task.tooManyLanes) ∧ Idle history := by
  rw [runTask, Task.launch_of_not_permitted _ _ _ _ _ _ nonempty crowded]
  refine ensures_after_now fun early idle start => ?_
  have crashes : Ensures answer (ExceptT.mk (.done (.error (.crash Task.tooManyLanes))) :
      ExceptT Halt (Act world) Report) fun history result =>
        history = [] ∧ result = .error (.crash Task.tooManyLanes) := ensures_result ⟨rfl, rfl⟩
  refine crashes.bind (fun history halt here => ?_) fun history report here => nomatch here.2
  obtain ⟨rfl, same⟩ := here
  rw [List.append_nil]
  exact ⟨congrArg _ (Except.error.inj same), idle⟩

/-! ## All tasks -/

/-- The first of some tasks is run and its log saved before the others. -/
theorem runTasks_cons {found : Task} {name : String} (looked : Catalogue.task name = .ok found)
    (nonempty : found.selection job.limit ≠ []) (summaries : Members) (samples : List Sample)
    (names : List String) :
    job.runTasks summaries samples (name :: names) =
      job.runTask found >>= fun (report, seconds) =>
        (if job.logging then job.save (logName found.name) (logText report.entries)
          else pure ()) >>= fun _ =>
            job.runTasks (summaries.insert name (report.summary seconds))
              (samples ++ found.selection job.limit) names := by
  rw [runTasks, looked, orHalt_ok_bind, Task.select_of_ne_nil nonempty, orHalt_ok_bind]
  cases job.logging <;> rfl

end Job

/-- A task that was run under its name, with the report on it and the time that it took. -/
structure Completed where
  name : String
  report : Report
  seconds : Float

/-- What the results say of a task that was run. -/
def Completed.entry (completed : Completed) : String × Value :=
  (completed.name, completed.report.summary completed.seconds)

namespace Job

variable {job : Job} {σ : Type} {answer : Handler world σ}

/-- Tasks were run in a history one after the other, each in a part of it. -/
inductive Completes (job : Job) : List Completed → List (Happening world) → Prop
  | nil (history : List (Happening world)) : Completes job [] history
  | cons {task : Task} {first : Completed} {others : List Completed}
    {own later : List (Happening world)} (before : List (Happening world))
    (found : Catalogue.task first.name = .ok task)
    (ran : (job.runTask task).run.Passes own (.ok (first.report, first.seconds)))
    (rest : Completes job others later) :
    Completes job (first :: others) (before ++ (own ++ later))

section

variable {completed : List Completed} {history : List (Happening world)}

/-- It does not matter what came before. -/
theorem Completes.append_left (completes : job.Completes completed history)
    (early : List (Happening world)) : job.Completes completed (early ++ history) := by
  cases completes with
  | nil => exact .nil _
  | cons before found ran rest =>
    rw [← List.append_assoc]
    exact .cons (early ++ before) found ran rest

/-- It does not matter what comes after. -/
theorem Completes.append_right (completes : job.Completes completed history)
    (late : List (Happening world)) : job.Completes completed (history ++ late) := by
  induction completes with
  | nil => exact .nil _
  | cons before found ran rest ih =>
    rw [List.append_assoc, List.append_assoc]
    exact .cons before found ran ih

end

/-- What comes of running tasks by name after others with their summaries. -/
structure RunsTasks (job : Job) (summaries : Members) (names : List String)
    (history : List (Happening world)) (result : Except Halt (Members × List Sample)) : Prop where
  /-- Only logs are written. -/
  logged : ∀ file ∈ written history, IsLog job.directory job.tasks file.1
  /-- The tasks of all names were run, and what is said of them is inserted in order. -/
  summarized : ∀ entries samples, result = .ok (entries, samples) →
    ∃ completed : List Completed, completed.map Completed.name = names ∧
      job.Completes completed history ∧
      entries = summaries.insertAll (completed.map Completed.entry)
  /-- There is no crash, and an error says that the caller was turned away. -/
  away : FailsOnlyAway history result

/-- What comes of a task without an error and of its log goes before what comes of the tasks after
it. -/
theorem RunsTasks.cons {summaries : Members} {task : Task} (first : Completed)
    {names : List String} {early middle late : List (Happening world)}
    {result : Except Halt (Members × List Sample)} (found : Catalogue.task first.name = .ok task)
    (ran : (job.runTask task).run.Passes early (.ok (first.report, first.seconds)))
    (kept : written early = [])
    (saved : ∀ file ∈ written middle, IsLog job.directory job.tasks file.1)
    (runs : job.RunsTasks (summaries.insert first.name (first.report.summary first.seconds)) names
      late result) :
    job.RunsTasks summaries (first.name :: names) (early ++ (middle ++ late)) result where
  logged file wrote := by
    simp only [written_append, kept, List.nil_append, List.mem_append] at wrote
    rcases wrote with log | rest
    · exact saved file log
    · exact runs.logged file rest
  summarized entries samples same := by
    obtain ⟨completed, rfl, completes, rfl⟩ := runs.summarized entries samples same
    exact ⟨first :: completed, rfl, .cons [] found ran (completes.append_left middle), rfl⟩
  away := (runs.away.append middle).append early

/-- Running tasks of a job, one after the other. -/
theorem ensures_runTasks (saves : ∀ directory ∈ job.directory, CanSave answer directory)
    (unlimited : job.limit ≠ some 0) (permitted : job.settings.Permitted)
    (known : ∀ name ∈ job.tasks, name ∈ Catalogue.names)
    (names : List String) (among : ∀ name ∈ names, name ∈ job.tasks) (summaries : Members)
    (samples : List Sample) :
    Ensures answer (job.runTasks summaries samples names)
      (job.RunsTasks summaries names) := by
  induction names generalizing summaries samples with
  | nil =>
    refine ensures_result ⟨nofun, fun entries others same => ?_, nofun⟩
    obtain ⟨rfl, -⟩ := Prod.mk.inj (Except.ok.inj same)
    exact ⟨[], rfl, .nil _, rfl⟩
  | cons first names ih =>
    have member := among first List.mem_cons_self
    obtain ⟨found, listed, looked, called⟩ := Catalogue.exists_task (known first member)
    have nonempty := Catalogue.selection_ne_nil listed unlimited
    rw [runTasks_cons looked nonempty, called]
    refine (ensures_runTask nonempty permitted).passes.bind (fun early halt failed => ?_)
      fun early (report, seconds) went => ?_
    · exact ⟨by simp [failed.1.1], nofun, failed.1.2.error⟩
    · obtain ⟨⟨kept, -⟩, ran⟩ := went
      refine (ensures_save_log saves member (logText report.entries)).bind
        (fun middle halt saved => nomatch saved.1) fun middle _ saved => ?_
      refine (ih (fun name rest => among name (List.mem_cons_of_mem _ rest)) _ _).mono
        fun late result runs => ?_
      exact .cons ⟨first, report, seconds⟩ looked ran kept saved.2 runs

/-! ## The whole job -/

/-- What comes of running a job. -/
structure Concludes (job : Job) (history : List (Happening world))
    (result : Except Halt Results) : Prop where
  /-- Results say what was reported on the tasks, and are saved once after the logs. -/
  reported : ∀ results, result = .ok results →
    (∃ completed : List Completed, completed.map Completed.name = job.tasks ∧
      job.Completes completed history ∧
      results.summaries = Members.insertAll [] (completed.map Completed.entry)) ∧
    ∃ logs, written history =
        logs ++ fileIn job.directory resultsName (pretty results.toJson) ∧
      ∀ file ∈ logs, IsLog job.directory job.tasks file.1
  /-- Without results only logs are written. -/
  logged : ∀ halt, result = .error halt →
    ∀ file ∈ written history, IsLog job.directory job.tasks file.1
  /-- There is no crash, and an error says that the caller was turned away. -/
  away : FailsOnlyAway history result

/-- A job that has samples and room for its lanes reports on all of its tasks, unless the caller is
turned away. -/
theorem ensures_run (saves : ∀ directory ∈ job.directory, CanSave answer directory)
    (unlimited : job.limit ≠ some 0) (permitted : job.settings.Permitted)
    (known : ∀ name ∈ job.tasks, name ∈ Catalogue.names) :
    Ensures answer job.run job.Concludes := by
  rw [run]
  refine ensures_after_now fun early idle start => ?_
  refine (ensures_runTasks saves unlimited permitted known job.tasks (fun _ => id) [] []).bind
    (fun middle halt runs => ?_) fun middle (summaries, samples) runs => ?_
  · refine ⟨nofun, fun other same => ?_, runs.away.error.append early⟩
    simpa [idle.written_eq_nil] using runs.logged
  · obtain ⟨completed, named, completes, rfl⟩ := runs.summarized summaries samples rfl
    refine ensures_after_now fun late idle' finish => ?_
    refine (ensures_save saves _ _).bind (fun final halt saved => nomatch saved.1)
      fun final _ saved => ?_
    refine ensures_result ⟨fun results same => ?_, nofun, nofun⟩
    obtain rfl := Except.ok.inj same
    refine ⟨⟨completed, named, (completes.append_right _).append_left early, rfl⟩,
      written middle, ?_, runs.logged⟩
    simp [idle.written_eq_nil, idle'.written_eq_nil, saved.2]

/-- A job that halts at its tasks before anything takes place is over with that. -/
theorem ensures_run_of_halt {halt : Halt}
    (stopped : Ensures answer (job.runTasks [] [] job.tasks) fun history result =>
      result = .error halt ∧ Idle history) :
    Ensures answer job.run fun history result => result = .error halt ∧ Idle history := by
  rw [run]
  refine ensures_after_now fun early idle start => ?_
  refine stopped.bind (fun history other here => ?_) fun history value here => nomatch here.1
  exact ⟨congrArg _ (Except.error.inj here.1), idle.append here.2⟩

section

variable {first : String} {names : List String} (listed : job.tasks = first :: names)
  (known : first ∈ Catalogue.names)

include listed known

/-- A job whose limit leaves no sample fails at the first task, before anything takes place. -/
theorem ensures_run_of_limit_zero (limited : job.limit = some 0) :
    Ensures answer job.run fun history result =>
      result = .error (.error (.noSamples first)) ∧ Idle history := by
  obtain ⟨found, -, looked, called⟩ := Catalogue.exists_task known
  have empty : found.selection job.limit = [] := by
    rw [limited]
    exact List.take_zero
  refine ensures_run_of_halt ?_
  rw [listed, runTasks, looked, orHalt_ok_bind, Task.select_of_nil empty, orHalt_error_bind, called]
  exact ensures_result ⟨rfl, List.forall_mem_nil _⟩

/-- A job that has samples and no room for its lanes crashes at the first task, before anything
takes place. -/
theorem ensures_run_of_not_permitted (unlimited : job.limit ≠ some 0)
    (crowded : ¬job.settings.Permitted) :
    Ensures answer job.run fun history result =>
      result = .error (.crash Task.tooManyLanes) ∧ Idle history := by
  obtain ⟨found, among, looked, -⟩ := Catalogue.exists_task known
  have nonempty := Catalogue.selection_ne_nil among unlimited
  refine ensures_run_of_halt ?_
  rw [listed, runTasks_cons looked nonempty]
  refine (ensures_runTask_of_not_permitted nonempty crowded).bind (fun history halt here => ?_)
    fun history value here => nomatch here.1
  exact ⟨congrArg _ (Except.error.inj here.1), here.2⟩

end

end Job
end Assay.Command
