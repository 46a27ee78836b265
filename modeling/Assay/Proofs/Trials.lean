import Assay.Proofs.Calls
import Assay.Proofs.Steps
import Assay.Task

/-!
# The trials of a run

A run that evaluates its samples one at a time is a sequence of trials, one for each sample that
is selected, in order. Each trial starts from what the trials before it have left behind, and has
an outcome and calls of its own. The calls of the run are those of its trials, one after the
other, and its result is settled from their outcomes; without a selected sample there is no trial
and no call.
-/
namespace Assay

/-- What came of the evaluation of one sample in a run, with the calls that were made for it. -/
structure Trial where
  sample : Sample
  outcome : Except Error (Attempt × Score)
  calls : List Call

namespace Task

/-- The samples of a task that a run with a limit evaluates. -/
def selection (task : Task) (limit : Option Nat) : List Sample :=
  task.samples.take (limit.getD task.samples.length)

/-- Without a selected sample there is nothing to run. -/
theorem select_of_nil {task : Task} {limit : Option Nat} (empty : task.selection limit = []) :
    task.select limit = .error (.noSamples task.name) := by
  rw [selection] at empty
  rw [select, empty]

/-- Selected samples are what is run. -/
theorem select_of_ne_nil {task : Task} {limit : Option Nat} (nonempty : task.selection limit ≠ []) :
    task.select limit = .ok (task.selection limit) := by
  rw [selection] at nonempty ⊢
  rw [select]
  split
  · next empty => exact absurd empty nonempty
  · rfl

section

variable (task : Task) (profiles : Party → Profile) (settings : RunSettings) (sampling : Sampling)
  (limit : Option Nat) (logging : Bool)

/-- A run without a selected sample is over at once. -/
theorem run_of_nil (empty : task.selection limit = []) :
    task.run profiles settings sampling limit logging =
      .done (.error (.noSamples task.name)) := by
  rw [run, select_of_nil empty]
  rfl

/-- Where there is room for the lanes, to launch a task is to run it. -/
theorem launch_of_permitted (permitted : settings.Permitted) :
    task.launch profiles settings sampling limit logging =
      (task.run profiles settings sampling limit logging).bind fun outcome =>
        .done (outcome.mapError .error) := by
  rw [launch]
  cases selected : task.select limit with
  | error error =>
    rw [run, selected]
    rfl
  | ok samples => exact if_pos permitted

/-- Where there is no room for the lanes, a task that has a sample crashes at once. -/
theorem launch_of_not_permitted (nonempty : task.selection limit ≠ [])
    (crowded : ¬settings.Permitted) :
    task.launch profiles settings sampling limit logging =
      .done (.error (.crash tooManyLanes)) := by
  rw [launch, select_of_ne_nil nonempty]
  exact if_neg crowded

/-- A run that succeeds has selected a sample. -/
theorem selection_ne_nil_of_run {σ : Type} {answer : Handler calling σ} {state : σ}
    {report : Report}
    (ran : ((task.run profiles settings sampling limit logging).run answer state).1 =
      .ok report) : task.selection limit ≠ [] := by
  intro empty
  rw [run_of_nil task profiles settings sampling limit logging empty] at ran
  contradiction

/-- A run with one lane evaluates the selected samples in turn. -/
theorem run_of_lanes_one (alone : settings.lanes = 1) (nonempty : task.selection limit ≠ []) :
    task.run profiles settings sampling limit logging =
      (Act.inTurn ((task.selection limit).map (task.attempt profiles settings sampling))).bind
        fun outcomes =>
          .done ((settled outcomes).map (task.report logging (task.selection limit))) := by
  rw [run, select_of_ne_nil nonempty, alone]
  simp only [Act.together_one]
  rfl

variable {σ : Type} (answer : Handler calling σ)

/-- The trials of samples, from a state on. -/
def trials : (state : σ) → List Sample → List Trial
  | _, [] => []
  | state, sample :: samples =>
    let attempt := task.attempt profiles settings sampling sample
    ⟨sample, (attempt.run answer state).1, attempt.calls answer state⟩ ::
      trials (attempt.run answer state).2 samples

/-- There is one trial for each sample, in order. -/
theorem map_sample_trials (state : σ) (samples : List Sample) :
    (task.trials profiles settings sampling answer state samples).map Trial.sample = samples := by
  induction samples generalizing state with
  | nil => rfl
  | cons sample samples ih => exact congrArg _ (ih _)

/-- What holds of the evaluation of every sample from every state holds of every trial. -/
theorem forall_mem_trials (holds : Trial → Prop)
    (each : ∀ sample state, holds ⟨sample,
      ((task.attempt profiles settings sampling sample).run answer state).1,
      (task.attempt profiles settings sampling sample).calls answer state⟩)
    (state : σ) (samples : List Sample) :
    ∀ trial ∈ task.trials profiles settings sampling answer state samples, holds trial := by
  induction samples generalizing state with
  | nil => simp [trials]
  | cons sample samples ih =>
    intro trial member
    rcases List.mem_cons.1 member with rfl | later
    · exact each sample state
    · exact ih _ trial later

/-- The values of evaluations in turn are the outcomes of their trials. -/
theorem run_inTurn_attempts (state : σ) (samples : List Sample) :
    ((Act.inTurn (samples.map (task.attempt profiles settings sampling))).run answer state).1 =
      (task.trials profiles settings sampling answer state samples).map Trial.outcome := by
  induction samples generalizing state with
  | nil => rfl
  | cons sample samples ih =>
    simp only [List.map_cons, Act.inTurn, Act.run_bind, trials, ← ih]
    rfl

/-- The calls of evaluations in turn are those of their trials. -/
theorem calls_inTurn_attempts (state : σ) (samples : List Sample) :
    (Act.inTurn (samples.map (task.attempt profiles settings sampling))).calls answer state =
      (task.trials profiles settings sampling answer state samples).flatMap Trial.calls := by
  induction samples generalizing state with
  | nil => rfl
  | cons sample samples ih =>
    simp only [List.map_cons, Act.inTurn, Act.calls_bind, trials, List.flatMap_cons, ← ih]
    exact congrArg _ (List.append_nil _)

/-- The result of a run with one lane is settled from the outcomes of its trials. -/
theorem run_run (alone : settings.lanes = 1) (nonempty : task.selection limit ≠ []) (state : σ) :
    ((task.run profiles settings sampling limit logging).run answer state).1 =
      (settled ((task.trials profiles settings sampling answer state
        (task.selection limit)).map Trial.outcome)).map
          (task.report logging (task.selection limit)) := by
  rw [run_of_lanes_one task profiles settings sampling limit logging alone nonempty, Act.run_bind,
    ← run_inTurn_attempts]
  rfl

/-- The calls of a run with one lane are those of its trials. -/
theorem calls_run (alone : settings.lanes = 1) (state : σ) :
    (task.run profiles settings sampling limit logging).calls answer state =
      (task.trials profiles settings sampling answer state
        (task.selection limit)).flatMap Trial.calls := by
  by_cases empty : task.selection limit = []
  · rw [run_of_nil task profiles settings sampling limit logging empty, empty]
    rfl
  · rw [run_of_lanes_one task profiles settings sampling limit logging alone empty,
      Act.calls_bind, calls_inTurn_attempts]
    exact List.append_nil _

end

end Task

/-! ## A small task

The examples of what runs do are about this task, and these parties and replies. -/

/-- A task of two questions that are put to the model as they are. -/
def twoQuestions : Task where
  name := "questions"
  samples := [{ input := "First?", target := ["yes"] }, { input := "Second?", target := ["yes"] }]
  plan := [.generate]
  scorer := .answerList

/-- Parties that are known by their failures alone. -/
def plainProfile (_ : Party) : Profile :=
  ⟨"model", "connection", Failure.isPassing, Failure.isRefusal⟩

/-- A reply that answers a question. -/
def answering : Generation := .success (.ofText "model" "yes" .stop none) ⟨.null, .null⟩

/-- A reply that refuses the caller. -/
def refusing : Generation := .ofFailure "model" (.status 401 "no") ⟨.null, .null⟩

/-- A reply of a party that is out of order for a while. -/
def pausing : Generation := .ofFailure "model" (.status 503 "busy") ⟨.null, .null⟩

end Assay
