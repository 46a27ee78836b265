import Assay.Json.Printer
import Assay.Task

/-!
# Results of the command

The results of a command are the summaries of its tasks under their names, the fingerprint of all
samples, the time it took and what it was told. They are printed and, with the samples of each
task beside them, kept in files.
-/
namespace Assay.Command

open Json

/-- What came of the tasks of a command. -/
structure Results where
  /-- The summaries of the tasks, in the order of their names. -/
  summaries : Members
  fingerprint : String
  seconds : Float
  model : String
  grader : String
  limit : Option Nat
  tasks : List String

/-- Results as JSON. -/
def Results.toJson (results : Results) : Value :=
  .object [
    ("config", .object [
      ("grader_model", .text results.grader),
      ("max_samples", (results.limit.map Value.nat).getD .null),
      ("model", .text results.model), ("tasks", .texts results.tasks)]),
    ("dataset_hash", .text results.fingerprint), ("results", .object results.summaries),
    ("total_seconds", .float results.seconds)]

/-- An entry of a report as text, with its fields in the order of the entry. -/
def logLine (entry : LogEntry) : String := compact (.ofFields entry.fields)

/-- The entries of a report as text, with one on each line. -/
def logText (entries : List LogEntry) : String :=
  String.join (entries.map fun entry => logLine entry ++ "\n")

/-- The file that holds the entries for a task. -/
def logName (task : String) : String := "samples_" ++ task ++ ".jsonl"

/-- The file that holds the results. -/
def resultsName : String := "results.json"

end Assay.Command
