import Assay.Catalogue
import Assay.Command.Options
import Assay.Command.Results
import Assay.Provider
import Assay.Saving

/-!
# The command

The command evaluates a model on tasks. Everything it was told is checked before the first call:
the tasks, the sampling parameters, the model arguments, the model, and then the grader if one is
named. It prints its results only when all tasks have been run and all files saved. That there is no
room for the lanes that the model arguments ask for is not noticed before the first task is
launched, and is a crash.
-/
namespace Assay.Command

open Json

/-- What the command does once its options are checked. -/
structure Job where
  tasks : List String
  endpoints : Party → Endpoint
  settings : RunSettings
  sampling : Sampling
  limit : Option Nat
  directory : Option String
  logging : Bool

/-- How the command ends. -/
structure Exit where
  code : UInt8
  output : String
  message : String

/-- The names of the tasks in a text between commas. -/
def taskNames (text : String) : List String :=
  (Assignment.parts text.toList).map String.ofList

/-- The sampling parameters in a text, which may be empty. -/
def samplingOf (text : String) : Except Error Sampling :=
  if text = "" then .ok {} else Sampling.ofText text

/-- Check options one after the other. -/
def Job.ofOptions (environment : Environment) (options : Options) : Except Error Job := do
  let tasks := taskNames options.tasks
  if tasks.isEmpty then .error .noTasks
  tasks.forM fun name => (Catalogue.task name).map fun _ => ()
  let sampling ← samplingOf options.sampling
  let arguments ← ModelArguments.ofText options.modelArguments
  let model ← Endpoint.named environment options.model arguments {}
  let grader ← match options.graderModel with
    | none => .ok model
    | some name => do
      let arguments ← ModelArguments.ofText options.graderArguments
      Endpoint.named environment name arguments {}
  let endpoints : Party → Endpoint
    | .model => model
    | .grader => grader
  .ok {
    tasks, endpoints, sampling
    settings := arguments.runSettings
    limit := options.limit
    directory := options.directory
    logging := options.logging }

/-- Go on with the value of a result, or halt with its error. -/
def orHalt {α : Type} (result : Except Error α) : ExceptT Halt (Act world) α :=
  ExceptT.mk (pure (result.mapError .error))

namespace Job

/-- Save a file in the directory of a job, if it has one. -/
def save (job : Job) (name text : String) : ExceptT Halt (Act world) Unit :=
  match job.directory with
  | none => pure ()
  | some directory => do
    let outcome : Except FileFault Unit ← (World.save directory name text : Act world _)
    match outcome with
    | .ok () => pure ()
    | .error fault => throw (.error (.file fault))

/-- Run a task and tell how long it took. -/
def runTask (job : Job) (task : Task) : ExceptT Halt (Act world) (Report × Float) := do
  let start : Duration ← (World.now : Act world _)
  let report ← ExceptT.mk ((task.launch (fun party => (job.endpoints party).profile) job.settings
    job.sampling job.limit job.logging).interpret (Endpoint.serve job.endpoints))
  let finish : Duration ← (World.now : Act world _)
  pure (report, (finish.since start).toFloatSeconds)

/-- Run tasks by name, with the summaries and samples of those that were run before. -/
def runTasks (job : Job) (summaries : Members) (samples : List Sample) :
    List String → ExceptT Halt (Act world) (Members × List Sample)
  | [] => pure (summaries, samples)
  | name :: names => do
    let task ← orHalt (Catalogue.task name)
    let selected ← orHalt (task.select job.limit)
    let (report, seconds) ← job.runTask task
    if job.logging then job.save (logName task.name) (logText report.entries)
    job.runTasks (summaries.insert name (report.summary seconds)) (samples ++ selected) names

/-- Run all tasks of a job and save what came of them. -/
def run (job : Job) : ExceptT Halt (Act world) Results := do
  let start : Duration ← (World.now : Act world _)
  let (summaries, samples) ← job.runTasks [] [] job.tasks
  let finish : Duration ← (World.now : Act world _)
  let results : Results := {
    summaries
    fingerprint := Sample.fingerprint samples
    seconds := (finish.since start).toFloatSeconds
    model := (job.endpoints .model).model
    grader := (job.endpoints .grader).model
    limit := job.limit
    tasks := job.tasks }
  job.save resultsName (pretty results.toJson)
  pure results

end Job

/-- Evaluate as options say. -/
def evaluate (environment : Environment) (options : Options) : ExceptT Halt (Act world) Results :=
  do (← orHalt (Job.ofOptions environment options)).run

/-- How the command ends with the results, or with what keeps it from them: an error is reported,
and a crash shows as much as it has to show. -/
def Exit.of : Except Halt Results → Exit
  | .ok results => ⟨0, pretty results.toJson ++ "\n", ""⟩
  | .error (.error error) => ⟨1, "", "Error: " ++ error.message ++ "\n"⟩
  | .error (.crash message) => ⟨101, "", message ++ "\n"⟩

/-- The name and the version of the command. -/
def versionText : String := "resteval 0.1.0\n"

/-- How the command is used. -/
def usageText : String :=
  "Usage: resteval [OPTIONS] --tasks <TASKS> --model <MODEL>\n"

/-- What the options mean. -/
def helpText : String :=
  "Evaluate models served behind REST endpoints\n\n" ++ usageText ++ "\nOptions:\n" ++
    "  --tasks <TASKS>                  Comma-separated list of tasks to run\n" ++
    "  --model <MODEL>                  Model to evaluate, as provider/model\n" ++
    "  --model-args <ARGS>              Model configuration, as key=value pairs\n" ++
    "  --gen-kwargs <ARGS>              Generation parameters, as key=value pairs\n" ++
    "  --grader-model <MODEL>           Model used by model-graded scorers\n" ++
    "  --grader-model-args <ARGS>       Grader model configuration\n" ++
    "  --max-samples <COUNT>            Maximum samples per task\n" ++
    "  --output-path <DIRECTORY>        Output directory for results\n" ++
    "  --log-samples                    Log individual samples to JSONL files\n" ++
    "  -h, --help                       Print help\n" ++
    "  -V, --version                    Print version\n"

/-- Run the command. -/
def run (environment : Environment) (arguments : List String) : Act world Exit :=
  match Invocation.ofArguments arguments with
  | .version => pure ⟨0, versionText, ""⟩
  | .help => pure ⟨0, helpText, ""⟩
  | .misuse => pure ⟨2, "", usageText⟩
  | .evaluate options => do
    let result ← (evaluate environment options).run
    pure (.of result)

end Assay.Command
