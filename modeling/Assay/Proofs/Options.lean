import Assay.Command
import Assay.Proofs.Trials

/-!
# What is wrong with options

Options can be wrong in several ways, which are listed here in the order in which they count. All
but the last are looked for while a job is made of the options: `Job.ofOptions_screened` says that
making a job fails with the first of them, and that the job is about what the options say if there
is none. The last one, a limit that leaves no sample, is noticed when the first task is selected.
-/
namespace Assay

/-- The error of a result, if it has one. -/
def errorOf? {α : Type} : Except Error α → Option Error
  | .ok _ => none
  | .error error => some error

/-- A result is the first of some errors, and a value of some kind if there is none of them. -/
def Screened {α : Type} (errors : List (Option Error)) (result : Except Error α)
    (holds : α → Prop) : Prop :=
  match errors.findSome? id with
  | some error => result = .error error
  | none => ∃ value, result = .ok value ∧ holds value

section

variable {α β : Type} {errors : List (Option Error)} {holds : α → Prop}

/-- Without further errors there is a value. -/
theorem screened_ok {value : α} (fits : holds value) : Screened [] (.ok value) holds :=
  ⟨value, rfl, fits⟩

/-- An error that is not there is passed over. -/
theorem Screened.skip {result : Except Error α} (screened : Screened errors result holds) :
    Screened (none :: errors) result holds := screened

/-- An error of the first part of a result goes before those of what follows it. -/
theorem Screened.step {first : Except Error β} {next : β → Except Error α}
    (screened : ∀ value, first = .ok value → Screened errors (next value) holds) :
    Screened (errorOf? first :: errors) (first >>= next) holds := by
  cases first with
  | error error => rfl
  | ok value => exact screened value rfl

end

namespace Catalogue

/-- A name that is not in the catalogue has no task. -/
theorem task_of_not_mem {name : String} (unknown : name ∉ names) :
    task name = .error (.unknownTask name names) := by
  have none : tasks.find? (·.name = name) = none := by
    refine List.find?_eq_none.2 fun task among same => unknown ?_
    rw [← of_decide_eq_true same]
    exact List.mem_map_of_mem among
  rw [task, none]

/-- A name in the catalogue has a task of that name. -/
theorem exists_task {name : String} (known : name ∈ names) :
    ∃ found ∈ tasks, task name = .ok found ∧ found.name = name := by
  obtain ⟨other, among, same⟩ := List.mem_map.1 known
  have some : (tasks.find? (·.name = name)).isSome :=
    List.find?_isSome.2 ⟨other, among, decide_eq_true same⟩
  obtain ⟨found, here⟩ := Option.isSome_iff_exists.1 some
  have called : found.name = name := by simpa using List.find?_some here
  refine ⟨found, List.mem_of_find?_eq_some here, ?_, called⟩
  rw [task, here]

/-- Every task in the catalogue has samples. -/
theorem samples_ne_nil {found : Task} (among : found ∈ tasks) : found.samples ≠ [] := by
  rcases List.mem_cons.1 among with rfl | later
  · exact List.cons_ne_nil _ _
  · obtain rfl := List.mem_singleton.1 later
    exact List.cons_ne_nil _ _

/-- A limit other than zero leaves samples of every task in the catalogue. -/
theorem selection_ne_nil {found : Task} (among : found ∈ tasks) {limit : Option Nat}
    (unlimited : limit ≠ some 0) : found.selection limit ≠ [] := by
  have samples := samples_ne_nil among
  rw [Task.selection, Ne, List.take_eq_nil_iff, not_or]
  refine ⟨?_, samples⟩
  cases limit with
  | none => exact fun none => samples (List.length_eq_zero_iff.1 none)
  | some count =>
    rintro rfl
    exact unlimited rfl

/-- Looking for tasks by name fails at the first name that is not in the catalogue. -/
theorem errorOf?_forM_task (wanted : List String) :
    errorOf? (wanted.forM fun name => (task name).map fun _ => ()) =
      (wanted.find? (· ∉ names)).map fun name => .unknownTask name names := by
  induction wanted with
  | nil => rfl
  | cons name wanted ih =>
    change errorOf? (((task name).map fun _ => ()).bind fun _ => wanted.forM fun name =>
      (task name).map fun _ => ()) = _
    by_cases known : name ∈ names
    · obtain ⟨found, -, same, -⟩ := exists_task known
      rw [same, List.find?_cons_of_neg (by simpa using known), ← ih]
      rfl
    · rw [task_of_not_mem known, List.find?_cons_of_pos (by simpa using known)]
      rfl

/-- Tasks that are found by name are in the catalogue. -/
theorem mem_names_of_forM_task {wanted : List String}
    (found : (wanted.forM fun name => (task name).map fun _ => ()) = .ok ()) :
    ∀ name ∈ wanted, name ∈ names := by
  have none := errorOf?_forM_task wanted
  rw [found, errorOf?, eq_comm, Option.map_eq_none_iff, List.find?_eq_none] at none
  intro name among
  simpa using none name among

end Catalogue

namespace Command

/-- What keeps a job from being made of options, in order: there is no task, or one that is not
in the catalogue; the sampling parameters or the model arguments cannot be read; there is no such
model; and where a grader is named, its arguments cannot be read or there is no such grader. -/
def Options.obstacles (environment : Environment) (options : Options) : List (Option Error) :=
  let tasks := taskNames options.tasks
  let arguments := ModelArguments.ofText options.modelArguments
  let graderArguments := ModelArguments.ofText options.graderArguments
  [if tasks = [] then some .noTasks else none,
    (tasks.find? (· ∉ Catalogue.names)).map fun name => .unknownTask name Catalogue.names,
    errorOf? (samplingOf options.sampling),
    errorOf? arguments,
    errorOf? (arguments.bind fun arguments =>
      Endpoint.named environment options.model arguments {}),
    options.graderModel.bind fun _ => errorOf? graderArguments,
    options.graderModel.bind fun grader => errorOf? (graderArguments.bind fun arguments =>
      Endpoint.named environment grader arguments {})]

/-- What is wrong with options, in order: what keeps a job from being made of them, and then a
limit that leaves no sample of the first task. -/
def Options.faults (environment : Environment) (options : Options) : List (Option Error) :=
  options.obstacles environment ++
    [if options.limit = some 0 then (taskNames options.tasks).head?.map .noSamples else none]

/-- The first thing that is wrong with options. -/
def Options.fault? (environment : Environment) (options : Options) : Option Error :=
  (options.faults environment).findSome? id

/-- The limit is wrong only where nothing else is. -/
theorem Options.fault?_eq (environment : Environment) (options : Options) :
    options.fault? environment = ((options.obstacles environment).findSome? id).or
      (if options.limit = some 0 then (taskNames options.tasks).head?.map .noSamples
        else none) := by
  rw [fault?, faults, List.findSome?_append]
  simp

/-- A job is about what options say, and about tasks that there are. -/
structure Job.Obeys (job : Job) (options : Options) : Prop where
  tasks : job.tasks = taskNames options.tasks
  limit : job.limit = options.limit
  directory : job.directory = options.directory
  settings : ∃ arguments, ModelArguments.ofText options.modelArguments = .ok arguments ∧
    job.settings = arguments.runSettings
  nonempty : job.tasks ≠ []
  known : ∀ name ∈ job.tasks, name ∈ Catalogue.names

/-- Making a job of options fails with the first obstacle, and without one it comes to a job
that is about what the options say. -/
theorem Job.ofOptions_screened (environment : Environment) (options : Options) :
    Screened (options.obstacles environment) (Job.ofOptions environment options) fun job =>
      job.Obeys options := by
  rw [Options.obstacles, Job.ofOptions]
  by_cases empty : taskNames options.tasks = []
  · simp only [empty, if_true]
    rfl
  simp only [List.isEmpty_iff, if_neg empty, ← Catalogue.errorOf?_forM_task]
  refine .skip (.step fun _ found => .step fun sampling _ => .step fun arguments read => ?_)
  have known := Catalogue.mem_names_of_forM_task found
  rw [read]
  refine .step fun model _ => ?_
  cases options.graderModel with
  | none =>
    exact .skip (.skip (screened_ok ⟨rfl, rfl, rfl, ⟨arguments, read, rfl⟩, empty, known⟩))
  | some name =>
    refine .step fun graderArguments gathered => ?_
    simp only [gathered]
    exact .step fun grader _ =>
      screened_ok ⟨rfl, rfl, rfl, ⟨arguments, read, rfl⟩, empty, known⟩

end Command
end Assay
