import Assay.Lanes
import Assay.Metrics
import Assay.Scorer

/-!
# Tasks and their evaluation

A task is a list of samples, a plan and a scorer. To run it is to take the plan for each sample,
to score what comes of it and to report the scores in the order of the samples. Every sample is
evaluated even when one ends with an error; the error of the first such sample is then the
outcome of the run. A task is run by way of `launch`, which first makes the lanes for its samples:
where there is no room for as many as there are to be, it crashes before any sample is evaluated.
-/
namespace Assay

open Json

/-- What is evaluated, and how. -/
structure Task where
  name : String
  samples : List Sample
  plan : List Step
  scorer : Scorer

/-- What is kept of one sample. -/
structure LogEntry where
  /-- The place of the sample in its task, from zero. -/
  place : Nat
  id : Option String
  input : String
  target : List String
  completion : String
  credit : Float
  explanation : Option String
  error : Option String

/-- What came of a run. -/
structure Report where
  task : String
  fingerprint : String
  metrics : Metrics
  size : Nat
  entries : List LogEntry

namespace LogEntry

/-- An entry for the attempt at a sample. -/
def ofAttempt (place : Nat) (attempt : Attempt) (score : Score) : LogEntry where
  place := place
  id := attempt.sample.id
  input := attempt.sample.input
  target := attempt.sample.target
  completion := attempt.output.completion
  credit := score.verdict.credit
  explanation := score.explanation
  error := attempt.output.error

/-- The fields of an entry, in the order in which they are written. -/
def fields (entry : LogEntry) : List (String × Option Value) :=
  [("doc_id", some (.nat entry.place)), ("id", entry.id.map .text),
    ("input", some (.text entry.input)), ("target", some (.texts entry.target)),
    ("completion", some (.text entry.completion)), ("score", some (.float entry.credit)),
    ("explanation", entry.explanation.map .text), ("error", entry.error.map .text)]

/-- An entry as JSON, without what is absent. -/
def toJson (entry : LogEntry) : Value := .ofMembers (Members.present entry.fields)

/-- Read an entry. -/
def ofJson : Decoder LogEntry :=
  Decode.record "struct LoggedSample" 8 false
    (fun members => do
      let completion ← members.field? "completion" Decode.text
      let place ← members.field? "doc_id" (Decode.below Number.word64Bound "usize")
      let error ← members.field? "error" (Decode.nullable Decode.text)
      let explanation ← members.field? "explanation" (Decode.nullable Decode.text)
      let id ← members.field? "id" (Decode.nullable Decode.text)
      let input ← members.field? "input" Decode.text
      let credit ← members.field? "score" Decode.float
      let target ← members.field? "target" (Decode.list Decode.text)
      let place ← Decode.required "doc_id" place
      let input ← Decode.required "input" input
      let target ← Decode.required "target" target
      let completion ← Decode.required "completion" completion
      let credit ← Decode.required "score" credit
      .ok ⟨place, id.join, input, target, completion, credit, explanation.join, error.join⟩)
    (fun row => do
      let place ← row.item 0 (Decode.below Number.word64Bound "usize")
      let id ← row.item 1 (Decode.nullable Decode.text)
      let input ← row.item 2 Decode.text
      let target ← row.item 3 (Decode.list Decode.text)
      let completion ← row.item 4 Decode.text
      let credit ← row.item 5 Decode.float
      let explanation ← row.item 6 (Decode.nullable Decode.text)
      let error ← row.item 7 (Decode.nullable Decode.text)
      .ok ⟨place, id, input, target, completion, credit, explanation, error⟩)

end LogEntry

namespace Report

/-- The fields of a report as JSON, with the seconds that the run took. -/
def fields (report : Report) (elapsed : Float) : List (String × Option Value) :=
  [("elapsed", some (.float elapsed)), ("metrics", some report.metrics.toJson),
    ("num_samples", some (.nat report.size)), ("task", some (.text report.task)),
    ("task_hash", some (.text report.fingerprint))]

/-- A report as JSON, with its entries when there are any. -/
def toJson (report : Report) (elapsed : Float) : Value :=
  .ofMembers (Members.present (("samples",
    if report.entries.isEmpty then none
    else some (.list (report.entries.map LogEntry.toJson))) :: report.fields elapsed))

/-- A report without its entries as JSON. -/
def summary (report : Report) (elapsed : Float) : Value := .ofFields (report.fields elapsed)

end Report

namespace Task

/-- The samples of a task up to a limit, of which there has to be one. -/
def select (task : Task) (limit : Option Nat) : Except Error (List Sample) :=
  match task.samples.take (limit.getD task.samples.length) with
  | [] => .error (.noSamples task.name)
  | samples => .ok samples

/-- Take the plan for a sample and score what comes of it. -/
def evaluate (task : Task) (model : String) (sampling : Sampling) (sample : Sample) :
    ExceptT Error (Act inquiring) (Attempt × Score) := do
  let attempt ← (Attempt.start sample model).follow sampling task.plan
  let score ← task.scorer.score attempt
  pure (attempt, score)

/-- The values of a list of outcomes, or the first error among them. -/
def settled {ε α : Type} : List (Except ε α) → Except ε (List α)
  | [] => .ok []
  | outcome :: outcomes => do
    let first ← outcome
    let later ← settled outcomes
    .ok (first :: later)

/-- The report on the attempts at samples. -/
def report (task : Task) (logging : Bool) (samples : List Sample)
    (attempts : List (Attempt × Score)) : Report where
  task := task.name
  fingerprint := Sample.fingerprint samples
  metrics := .ofCredits (attempts.map fun (_, score) => score.verdict.credit)
  size := samples.length
  entries :=
    if logging then attempts.mapIdx fun place (attempt, score) => .ofAttempt place attempt score
    else []

/-- Evaluate a sample with two parties, asking again as the settings say. -/
def attempt (task : Task) (profiles : Party → Profile) (settings : RunSettings)
    (sampling : Sampling) (sample : Sample) : Act calling (Except Error (Attempt × Score)) :=
  (task.evaluate (profiles .model).name sampling sample).run.interpret (settings.settle profiles)

/-- Run a task with two parties, where there is room for the lanes that the settings want: evaluate
its samples up to a limit, as many side by side as the settings say. -/
def run (task : Task) (profiles : Party → Profile) (settings : RunSettings)
    (sampling : Sampling) (limit : Option Nat) (logging : Bool) :
    Act calling (Except Error Report) :=
  match task.select limit with
  | .error error => pure (.error error)
  | .ok samples => do
    let outcomes ← Act.together settings.lanes
      (samples.map (task.attempt profiles settings sampling))
    pure ((settled outcomes).map (task.report logging samples))

/-- What is shown when there is no room for the lanes that there are to be. -/
def tooManyLanes : String :=
  "a semaphore may not have more than MAX_PERMITS permits (" ++ toString mostLanes ++ ")"

/-- Run a task with two parties. The lanes are made once the samples are there, and where there is
no room for them that is a crash. -/
def launch (task : Task) (profiles : Party → Profile) (settings : RunSettings)
    (sampling : Sampling) (limit : Option Nat) (logging : Bool) :
    Act calling (Except Halt Report) :=
  match task.select limit with
  | .error error => pure (.error (.error error))
  | .ok _ =>
    if settings.Permitted then do
      let outcome ← task.run profiles settings sampling limit logging
      pure (outcome.mapError .error)
    else pure (.error (.crash tooManyLanes))

end Task
end Assay
