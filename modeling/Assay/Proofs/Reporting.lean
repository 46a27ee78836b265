import Assay.Proofs.Credit

/-!
# What a report says

Where samples are evaluated one at a time, each of them is taken through the plan and scored from
the state that the samples before it have left. A report has been put together from what these
evaluations came to in several passes, which agree: `run_linesUp` says that its size, its
fingerprint, its metrics and its entries are all about the selected samples in their order, and
that leaving out the entries changes nothing else about the report or about the calls.
-/
namespace Assay

/-- An entry tells of a sample at a place, with the output that was reached for it and the score
of that. -/
structure LogEntry.TellsOf (entry : LogEntry) (place : Nat) (sample : Sample) (output : Output)
    (score : Score) : Prop where
  place : entry.place = place
  id : entry.id = sample.id
  input : entry.input = sample.input
  target : entry.target = sample.target
  completion : entry.completion = output.completion
  error : entry.error = output.error
  credit : entry.credit = score.verdict.credit
  explanation : entry.explanation = score.explanation

/-- A report lines up with samples, with what came of each of them, and with entries. -/
structure Report.LinesUp (report : Report) (samples : List Sample)
    (results : List (Attempt × Score)) (entries : List LogEntry) : Prop where
  size : report.size = samples.length
  fingerprint : report.fingerprint = Sample.fingerprint samples
  length : entries.length = report.size
  entry : ∀ place sample, samples[place]? = some sample →
    ∃ attempt score, results[place]? = some (attempt, score) ∧
      ∃ entry : LogEntry, entries[place]? = some entry ∧
        entry.TellsOf place sample attempt.output score
  metrics : report.metrics = .ofCredits (entries.map LogEntry.credit)

namespace Task

/-- Samples are evaluated one after the other from a state: following the plan for a sample comes
to an attempt, scoring the attempt comes to a score, and the state that is then left is the one
for the samples after it. -/
inductive Evaluates (task : Task) (profiles : Party → Profile) (settings : RunSettings)
    (sampling : Sampling) {σ : Type} (answer : Handler calling σ) :
    σ → List Sample → List (Attempt × Score) → Prop
  | nil (state : σ) : Evaluates task profiles settings sampling answer state [] []
  | cons {state reached left : σ} {sample : Sample} {samples : List Sample} {attempt : Attempt}
    {score : Score} {results : List (Attempt × Score)}
    (followed : (settings.answered profiles ((Attempt.start sample (profiles .model).name).follow
      sampling task.plan)).run answer state = (.ok attempt, reached))
    (scored : (settings.answered profiles (task.scorer.score attempt)).run answer reached =
      (.ok score, left))
    (later : Evaluates task profiles settings sampling answer left samples results) :
    Evaluates task profiles settings sampling answer state (sample :: samples)
      ((attempt, score) :: results)

section

variable {task : Task} {profiles : Party → Profile} {settings : RunSettings} {sampling : Sampling}
  {σ : Type} {answer : Handler calling σ} {state : σ}

/-- A run to a value of programs that follow one another comes to a value of the first one, and
what follows runs from the state that is left. -/
theorem run_answered_bind_ok {α β : Type} {program : ExceptT Error (Act inquiring) α}
    {next : α → ExceptT Error (Act inquiring) β} {value : β} {left : σ}
    (ran : (settings.answered profiles (program >>= next)).run answer state =
      (.ok value, left)) :
    ∃ middle reached, (settings.answered profiles program).run answer state =
        (.ok middle, reached) ∧
      (settings.answered profiles (next middle)).run answer reached = (.ok value, left) := by
  rw [answered_bind, Act.run_bind] at ran
  cases first : (settings.answered profiles program).run answer state with
  | mk result reached =>
    rw [first] at ran
    cases result with
    | ok middle => exact ⟨middle, reached, rfl, ran⟩
    | error error =>
      obtain ⟨impossible, -⟩ := Prod.mk.inj ran
      contradiction

/-- The evaluation of a sample that comes to an attempt and a score has followed the plan to the
attempt and scored it. -/
theorem run_attempt_ok {sample : Sample} {attempt : Attempt} {score : Score} {left : σ}
    (ran : (task.attempt profiles settings sampling sample).run answer state =
      (.ok (attempt, score), left)) :
    ∃ reached, (settings.answered profiles ((Attempt.start sample (profiles .model).name).follow
        sampling task.plan)).run answer state = (.ok attempt, reached) ∧
      (settings.answered profiles (task.scorer.score attempt)).run answer reached =
        (.ok score, left) := by
  obtain ⟨attempt, reached, followed, ran⟩ := run_answered_bind_ok ran
  obtain ⟨score, scored, graded, ran⟩ := run_answered_bind_ok ran
  obtain ⟨same, rfl⟩ := Prod.mk.inj ran
  obtain ⟨rfl, rfl⟩ := Prod.mk.inj (Except.ok.inj same)
  exact ⟨reached, followed, graded⟩

/-- Trials that all come to a value evaluate their samples. -/
theorem evaluates_of_settled {samples : List Sample} {results : List (Attempt × Score)}
    (settles : settled ((task.trials profiles settings sampling answer state samples).map
      Trial.outcome) = .ok results) :
    task.Evaluates profiles settings sampling answer state samples results := by
  have outcomes := eq_map_ok_of_settled settles
  clear settles
  induction samples generalizing state results with
  | nil =>
    obtain rfl := List.map_eq_nil_iff.1 outcomes.symm
    exact .nil state
  | cons sample samples ih =>
    cases results with
    | nil => contradiction
    | cons result results =>
      obtain ⟨first, later⟩ := List.cons.inj outcomes
      obtain ⟨reached, followed, scored⟩ := run_attempt_ok (Prod.ext first rfl)
      exact .cons followed scored (ih later)

/-- Following a plan to its end keeps the sample. -/
theorem sample_of_run_follow {plan : List Step} {start attempt : Attempt} {reached : σ}
    (followed : (settings.answered profiles (start.follow sampling plan)).run answer state =
      (.ok attempt, reached)) : attempt.sample = start.sample := by
  have course := Act.Course.of_run answer state
    (settings.answered profiles (start.follow sampling plan))
  rw [followed] at course
  exact sample_of_course_follow course

/-- What samples come to is attempts at them, in order. -/
theorem Evaluates.map_sample {samples : List Sample} {results : List (Attempt × Score)}
    (evaluates : task.Evaluates profiles settings sampling answer state samples results) :
    results.map (fun result => result.1.sample) = samples := by
  induction evaluates with
  | nil state => rfl
  | cons followed scored later ih =>
    have same := sample_of_run_follow followed
    rw [List.map_cons, ih, same]
    rfl

/-- A report on what samples come to lines up with them and with its entries, if it has them. -/
theorem Evaluates.linesUp {samples : List Sample} {results : List (Attempt × Score)}
    (evaluates : task.Evaluates profiles settings sampling answer state samples results)
    (logging : Bool) :
    (task.report logging samples results).LinesUp samples results
      (task.report true samples results).entries where
  size := rfl
  fingerprint := rfl
  length := by
    have same := congrArg List.length evaluates.map_sample
    rw [List.length_map] at same
    exact List.length_mapIdx.trans same
  entry place sample selected := by
    rw [← evaluates.map_sample, List.getElem?_map] at selected
    obtain ⟨⟨attempt, score⟩, found, rfl⟩ := Option.map_eq_some_iff.1 selected
    refine ⟨attempt, score, found, .ofAttempt place attempt score, ?_, ⟨rfl, rfl, rfl, rfl, rfl,
      rfl, rfl, rfl⟩⟩
    exact List.getElem?_mapIdx.trans (congrArg _ found)
  metrics := by
    have credits : (task.report true samples results).entries.map LogEntry.credit =
        results.map fun result => result.2.verdict.credit := by
      refine List.ext_getElem? fun place => ?_
      simp only [report, if_true, List.getElem?_map, List.getElem?_mapIdx, Option.map_map]
      rfl
    rw [credits]
    rfl

end

section

variable (task : Task) (profiles : Party → Profile) (settings : RunSettings) (sampling : Sampling)
  (limit : Option Nat) {σ : Type} (answer : Handler calling σ) (state : σ)

/-- A run that succeeds reports on what its samples come to. -/
theorem exists_evaluates {logging : Bool} {report : Report} (alone : settings.lanes = 1)
    (ran : ((task.run profiles settings sampling limit logging).run answer state).1 =
      .ok report) :
    ∃ results,
      task.Evaluates profiles settings sampling answer state (task.selection limit) results ∧
      ∀ other, ((task.run profiles settings sampling limit other).run answer state).1 =
        .ok (task.report other (task.selection limit) results) := by
  have nonempty := selection_ne_nil_of_run task profiles settings sampling limit logging ran
  rw [run_run task profiles settings sampling limit logging answer alone nonempty] at ran
  obtain ⟨results, settles, -⟩ := exists_of_map_eq_ok ran
  refine ⟨results, evaluates_of_settled settles, fun other => ?_⟩
  rw [run_run task profiles settings sampling limit other answer alone nonempty, settles]
  rfl

/-- The report of a run with one lane lines up with the selected samples. There is an entry for
each of them, with the place of the sample, its id, question and reference answers, and the
completion, the error and the score that its evaluation has come to; the size, the fingerprint
and the metrics are those of the same samples and entries in the same order. The same report
without the entries, by the same calls, is what a run that keeps no entries comes to. -/
theorem run_linesUp {logging : Bool} {report : Report} (alone : settings.lanes = 1)
    (ran : ((task.run profiles settings sampling limit logging).run answer state).1 =
      .ok report) :
    ∃ results entries,
      task.Evaluates profiles settings sampling answer state (task.selection limit) results ∧
      report.task = task.name ∧ report.LinesUp (task.selection limit) results entries ∧
      report.entries = (if logging then entries else []) ∧
      ∀ other : Bool,
        ((task.run profiles settings sampling limit other).run answer state).1 =
          .ok { report with entries := if other then entries else [] } ∧
        (task.run profiles settings sampling limit other).calls answer state =
          (task.run profiles settings sampling limit logging).calls answer state := by
  obtain ⟨results, evaluates, reported⟩ :=
    exists_evaluates task profiles settings sampling limit answer state alone ran
  obtain rfl := Except.ok.inj ((reported logging).symm.trans ran)
  refine ⟨results, _, evaluates, rfl, evaluates.linesUp logging, ?_, fun other => ⟨?_, ?_⟩⟩
  · cases logging <;> rfl
  · rw [reported other]
    cases other <;> rfl
  · rw [calls_run _ _ _ _ _ _ _ alone, calls_run _ _ _ _ _ _ _ alone]

end

/-- A task of three questions, of which the second one is not answered by `answering`. -/
def threeQuestions : Task where
  name := "questions"
  samples := [{ input := "First?", target := ["yes"] },
    { id := some "second", input := "Second?", target := ["no"] },
    { input := "Third?", target := ["yes"] }]
  plan := [.generate]
  scorer := .answerList

/-- A run that is cut to the first two of three questions reports on these, each in its place. -/
theorem run_linesUp_threeQuestions :
    (RunSettings.lanes { maxConnections := 1 }) = 1 ∧
      ∃ report, ((threeQuestions.run plainProfile { maxConnections := 1 } {} (some 2) true).run
          Scripts.answer fun _ => Stream'.const answering).1 = .ok report ∧
        report.size = 2 ∧
        report.fingerprint = Sample.fingerprint (threeQuestions.samples.take 2) ∧
        report.entries.map LogEntry.input = ["First?", "Second?"] ∧
        ∃ results, report.LinesUp (threeQuestions.samples.take 2) results report.entries := by
  have nonempty : threeQuestions.selection (some 2) ≠ [] := List.cons_ne_nil _ _
  have ran : ∃ report, ((threeQuestions.run plainProfile { maxConnections := 1 } {} (some 2)
      true).run Scripts.answer fun _ => Stream'.const answering).1 = .ok report ∧
        report.entries.map LogEntry.input = ["First?", "Second?"] := by
    rw [run_run threeQuestions plainProfile { maxConnections := 1 } {} (some 2) true
      Scripts.answer rfl nonempty]
    exact ⟨_, rfl, rfl⟩
  obtain ⟨report, ran, inputs⟩ := ran
  obtain ⟨results, entries, -, -, linesUp, rfl, -⟩ := run_linesUp threeQuestions plainProfile
    { maxConnections := 1 } {} (some 2) Scripts.answer (fun _ => Stream'.const answering) rfl ran
  exact ⟨rfl, report, ran, linesUp.size, linesUp.fingerprint, inputs, results, linesUp⟩

end Task
end Assay
