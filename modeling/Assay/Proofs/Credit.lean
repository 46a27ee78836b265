import Assay.Proofs.Course
import Assay.Proofs.Trials

/-!
# What earns credit

An entry of a report has credit when its completion matches the reference answers, or when the
grader's reply about it ends in the grade for credit. Nothing else counts, in particular not
whether the model failed: the wording of a failure is a completion like any other, and it earns
credit where the reference answers or the grader say so. This holds of runs with any number of
lanes, since what is scored is what one course of the evaluation of a sample has come to.
-/
namespace Assay

/-! ## Answers that are lists -/

namespace AnswerList

/-- The items of an answer are what the reference answers ask for: the same items in the same
order, or where the order does not count, as many items, with each reference among them. -/
def Matches (answer : String) (target : List String) (anyOrder : Bool) : Prop :=
  if anyOrder then (items answer).length = (references target).length ∧
    ∀ reference ∈ references target, reference ∈ items answer
  else items answer = references target

/-- Lists of one length differ at no place when they are equal. -/
theorem firstDifference?_eq_none_iff (place : Nat) {items references : List (List Char)}
    (same : items.length = references.length) :
    firstDifference? place items references = none ↔ items = references := by
  induction items generalizing place references with
  | nil =>
    obtain rfl := List.length_eq_zero_iff.1 same.symm
    exact ⟨fun _ => rfl, fun _ => rfl⟩
  | cons item items ih =>
    cases references with
    | nil => simp at same
    | cons reference references =>
      rw [firstDifference?]
      by_cases equal : item = reference
      · rw [if_pos equal, ih (place + 1) (by simpa using same), equal, List.cons.injEq]
        exact ⟨fun rest => ⟨rfl, rest⟩, And.right⟩
      · rw [if_neg equal]
        simp [equal]

/-- An answer has no fault when it matches. -/
theorem fault?_eq_none_iff (answer : String) (target : List String) (anyOrder : Bool) :
    fault? (items answer) (references target) anyOrder = none ↔ Matches answer target anyOrder := by
  rw [fault?, Matches]
  by_cases same : (items answer).length = (references target).length
  · rw [if_neg (not_not.2 same)]
    cases anyOrder with
    | true => simp [same]
    | false => simp [firstDifference?_eq_none_iff 1 same]
  · rw [if_pos same]
    cases anyOrder with
    | true => simp [same]
    | false =>
      have different : items answer ≠ references target := fun equal => same (equal ▸ rfl)
      simp [different]

/-- An answer is correct when it matches. -/
theorem score_verdict_eq_correct_iff (answer : String) (target : List String) (anyOrder : Bool) :
    (score answer target anyOrder).verdict = .correct ↔ Matches answer target anyOrder := by
  rw [← fault?_eq_none_iff, score]
  cases fault? (items answer) (references target) anyOrder with
  | none => simp [Score.correct]
  | some fault => simp [Score.incorrect]

end AnswerList

/-! ## Answers that are graded -/

/-- A grader's output gives credit when it is no error and its last grade is the one for
credit. -/
def Output.GivesCredit (grading : Output) : Prop :=
  grading.error = none ∧ Grade.ofText? grading.completion = some .correct

/-- A graded answer is correct when the grader's output gives credit. -/
theorem ofGrading_verdict_eq_correct_iff (answer : String) (grading : Output) :
    (Scorer.ofGrading answer grading).verdict = .correct ↔ grading.GivesCredit := by
  rw [Scorer.ofGrading, Output.GivesCredit]
  cases grading.error with
  | some error => simp [Score.incorrect]
  | none =>
    cases Grade.ofText? grading.completion with
    | none => simp [Score.incorrect]
    | some verdict => simp

/-- The credit of a verdict is zero when the verdict is not for credit. -/
theorem credit_eq_zero_iff (verdict : Verdict) : verdict.credit = 0 ↔ verdict ≠ .correct := by
  cases verdict with
  | correct => decide
  | incorrect => decide

/-! ## Entries of a report -/

/-- The question to the grader about a completion for a sample. -/
def Scorer.gradingQuestion (template instructions : String) (sample : Sample)
    (completion : String) : Question where
  messages := [.ofUser (Text.fill template [("question", sample.input), ("answer", completion),
    ("criterion", ", ".intercalate sample.target), ("instructions", instructions)])]
  tools := []
  choice := none
  sampling := {}

/-- A score follows from the completion for a sample alone: from how the completion compares with
the reference answers, or from the grader's reply to a call about it. -/
def Scorer.Judges (calls : List Call) (sample : Sample) (completion : String) (score : Score) :
    Scorer → Prop
  | .answerList => score.verdict = .correct ↔
      AnswerList.Matches completion sample.target (sample.flag "ignore_order")
  | .graded template instructions => ∃ call ∈ calls, call.party = .grader ∧
      call.question = gradingQuestion template instructions sample completion ∧
      (score.verdict = .correct ↔ call.reply.output.GivesCredit)

section

variable {settings : RunSettings} {profiles : Party → Profile} {sampling : Sampling}
  {calls more : List Call}

/-- More calls change nothing about a score that follows from a completion. -/
theorem Scorer.Judges.mono {scorer : Scorer} {sample : Sample} {completion : String}
    {score : Score} (judges : scorer.Judges calls sample completion score)
    (among : calls.Sublist more) : scorer.Judges more sample completion score := by
  cases scorer with
  | answerList => exact judges
  | graded template instructions =>
    obtain ⟨call, made, judged⟩ := judges
    exact ⟨call, among.subset made, judged⟩

/-- Steps keep the sample of an attempt. -/
theorem sample_of_course_follow {plan : List Step} {start attempt : Attempt}
    (course : (settings.answered profiles (start.follow sampling plan)).Course calls
      (.ok attempt)) : attempt.sample = start.sample := by
  induction plan generalizing start calls with
  | nil =>
    obtain ⟨-, same⟩ := course_pure course
    rw [Except.ok.inj same]
  | cons step plan ih =>
    obtain ⟨first, middle, second, rfl, taken, later⟩ := course_bind_ok course
    rw [ih later]
    cases step with
    | prompt template =>
      obtain ⟨-, same⟩ := course_pure taken
      rw [Except.ok.inj same]
      rfl
    | equip tools choice =>
      obtain ⟨-, same⟩ := course_pure taken
      rw [Except.ok.inj same]
    | generate =>
      obtain ⟨_, generation, _, rfl, -, continued⟩ := course_bind_ok taken
      obtain ⟨-, same⟩ := course_pure continued
      rw [Except.ok.inj same]
      rfl

/-- A score follows from the completion of the attempt, and an error of the attempt is no part
of it. -/
theorem judges_of_course_score {scorer : Scorer} {attempt : Attempt} {score : Score}
    (course : (settings.answered profiles (scorer.score attempt)).Course calls (.ok score)) :
    scorer.Judges calls attempt.sample attempt.output.completion score := by
  cases scorer with
  | answerList =>
    obtain ⟨-, same⟩ := course_pure course
    rw [Except.ok.inj same]
    exact AnswerList.score_verdict_eq_correct_iff _ _ _
  | graded template instructions =>
    obtain ⟨first, generation, second, rfl, asked, graded⟩ := course_bind_ok course
    obtain ⟨round, inquiry, rfl, final⟩ := course_ask asked
    obtain rfl := Profile.eq_of_verdict final.symm
    obtain ⟨-, same⟩ := course_pure graded
    rw [Except.ok.inj same]
    refine ⟨_, List.mem_append_left _ round.final_mem_calls, ?_, ?_,
      ofGrading_verdict_eq_correct_iff _ _⟩
    · rw [inquiry]
    · rw [inquiry]
      rfl

/-- The evaluation of a sample comes to an attempt at it and a score that follows from the
completion. -/
theorem judges_of_course_attempt {task : Task} {sample : Sample} {attempt : Attempt}
    {score : Score}
    (course : (task.attempt profiles settings sampling sample).Course calls
      (.ok (attempt, score))) :
    attempt.sample = sample ∧
      task.scorer.Judges calls sample attempt.output.completion score := by
  obtain ⟨first, reached, second, rfl, followed, scored⟩ := course_bind_ok course
  obtain ⟨third, given, fourth, rfl, graded, paired⟩ := course_bind_ok scored
  obtain ⟨rfl, same⟩ := course_pure paired
  obtain ⟨rfl, rfl⟩ := Prod.mk.inj (Except.ok.inj same)
  have kept : attempt.sample = sample := sample_of_course_follow followed
  have judges := judges_of_course_score graded
  rw [kept] at judges
  refine ⟨kept, judges.mono ?_⟩
  rw [List.append_nil]
  exact List.sublist_append_right ..

end

namespace Task

/-- Outcomes that are settled without an error are values. -/
theorem eq_map_ok_of_settled {ε α : Type} {outcomes : List (Except ε α)} {values : List α}
    (settles : settled outcomes = .ok values) : outcomes = values.map .ok := by
  induction outcomes generalizing values with
  | nil =>
    obtain rfl := Except.ok.inj settles
    rfl
  | cons outcome outcomes ih =>
    cases outcome with
    | error error => contradiction
    | ok value =>
      cases later : settled outcomes with
      | error error =>
        rw [settled, later] at settles
        contradiction
      | ok rest =>
        rw [settled, later] at settles
        obtain rfl := Except.ok.inj settles
        rw [List.map_cons, ← ih later]

variable (task : Task) (profiles : Party → Profile) (settings : RunSettings) (sampling : Sampling)
  (limit : Option Nat) (logging : Bool) {σ : Type} (answer : Handler calling σ) (state : σ)

/-- An entry of a report is about an attempt that a course of the evaluation of a selected sample
has come to, with calls among those of the run. -/
theorem exists_course_of_entry {report : Report}
    (ran : ((task.run profiles settings sampling limit logging).run answer state).1 = .ok report)
    {entry : LogEntry} (among : entry ∈ report.entries) :
    ∃ place attempt score, entry = .ofAttempt place attempt score ∧
      ∃ sample ∈ task.selection limit, ∃ own, List.Sublist own
          ((task.run profiles settings sampling limit logging).calls answer state) ∧
        (task.attempt profiles settings sampling sample).Course own (.ok (attempt, score)) := by
  by_cases empty : task.selection limit = []
  · rw [run_of_nil task profiles settings sampling limit logging empty] at ran
    contradiction
  · let program := Act.together settings.lanes
      ((task.selection limit).map (task.attempt profiles settings sampling))
    have whole : task.run profiles settings sampling limit logging =
        program.bind fun outcomes =>
          .done ((settled outcomes).map (task.report logging (task.selection limit))) := by
      rw [run, select_of_ne_nil empty]
      rfl
    rw [whole, Act.run_bind] at ran
    rw [whole, Act.calls_bind]
    have courses := course_together (Act.Course.of_run answer state program)
    cases settles : settled (program.run answer state).1 with
    | error error =>
      simp only [settles, Act.run, Except.map] at ran
      contradiction
    | ok pairs =>
      simp only [settles, Act.run, Except.map, Except.ok.injEq] at ran
      subst ran
      have outcomes := eq_map_ok_of_settled settles
      cases logging with
      | false => simp [report] at among
      | true =>
        obtain ⟨place, inside, rfl⟩ := List.mem_mapIdx.1 among
        have outcome : .ok pairs[place] ∈ (program.run answer state).1 := by
          rw [outcomes]
          exact List.mem_map_of_mem (List.getElem_mem inside)
        obtain ⟨_, running, own, few, course⟩ := courses _ outcome
        obtain ⟨sample, selected, rfl⟩ := List.mem_map.1 running
        exact ⟨place, pairs[place].1, pairs[place].2, rfl, sample, selected, own,
          few.trans (List.sublist_append_left ..), course⟩

/-- An entry of a report has no credit exactly when its completion does not match the reference
answers of its sample, or when the grader's reply to the call about it gives none. Whether its
error is set makes no difference: a failure is scored by its wording. -/
theorem run_credit_eq_zero_iff {report : Report}
    (ran : ((task.run profiles settings sampling limit logging).run answer state).1 = .ok report)
    {entry : LogEntry} (among : entry ∈ report.entries) :
    ∃ sample ∈ task.selection limit,
      entry.id = sample.id ∧ entry.input = sample.input ∧ entry.target = sample.target ∧
      match task.scorer with
      | .answerList => entry.credit = 0 ↔
          ¬AnswerList.Matches entry.completion sample.target (sample.flag "ignore_order")
      | .graded template instructions =>
        ∃ call ∈ (task.run profiles settings sampling limit logging).calls answer state,
          call.party = .grader ∧
          call.question =
            Scorer.gradingQuestion template instructions sample entry.completion ∧
          (entry.credit = 0 ↔ ¬call.reply.output.GivesCredit) := by
  obtain ⟨place, attempt, score, rfl, sample, selected, own, few, course⟩ :=
    exists_course_of_entry task profiles settings sampling limit logging answer state ran among
  obtain ⟨rfl, judges⟩ := judges_of_course_attempt course
  have credit : (LogEntry.ofAttempt place attempt score).credit = 0 ↔ score.verdict ≠ .correct :=
    credit_eq_zero_iff score.verdict
  refine ⟨attempt.sample, selected, rfl, rfl, rfl, ?_⟩
  have judged := judges.mono few
  cases scorer : task.scorer with
  | answerList =>
    rw [scorer] at judged
    exact credit.trans (not_congr judged)
  | graded template instructions =>
    rw [scorer] at judged
    obtain ⟨call, made, party, question, verdict⟩ := judged
    exact ⟨call, made, party, question, credit.trans (not_congr verdict)⟩

/-- A task of one question whose answer is graded. -/
def gradedQuestion : Task where
  name := "question"
  samples := [{ input := "Who?", target := ["Trump"] }]
  plan := [.generate]
  scorer := .graded "\x7banswer\x7d" "Grade it."

/-- A model that fails, and a grader that is content with everything. -/
def contentGrader : Scripts
  | .model => Stream'.const (.ofFailure "model" (.status 400 "no") ⟨.null, .null⟩)
  | .grader => Stream'.const (.success (.ofText "grader" "GRADE: C" .stop none) ⟨.null, .null⟩)

/-- What comes of the question when the model fails and the grader is content. -/
theorem run_gradedQuestion :
    ∃ attempt score, attempt.output.error = some "HTTP error 400: no" ∧
      score = Scorer.ofGrading attempt.output.completion
        (.ofText "grader" "GRADE: C" .stop none) ∧
      ((gradedQuestion.run plainProfile { maxConnections := 1 } {} none true).run Scripts.answer
        contentGrader).1 =
          .ok (gradedQuestion.report true gradedQuestion.samples [(attempt, score)]) := by
  have nonempty : gradedQuestion.selection none ≠ [] := List.cons_ne_nil _ _
  rw [run_run gradedQuestion plainProfile { maxConnections := 1 } {} none true Scripts.answer rfl
    nonempty]
  exact ⟨_, _, rfl, rfl, rfl⟩

/-- The entry on a call that failed has no credit exactly when the grader's reply gives none. -/
theorem run_credit_gradedQuestion :
    ∃ report entry, ((gradedQuestion.run plainProfile { maxConnections := 1 } {} none true).run
        Scripts.answer contentGrader).1 = .ok report ∧ entry ∈ report.entries ∧
      entry.error = some "HTTP error 400: no" ∧
      ∃ sample ∈ gradedQuestion.selection none,
        entry.id = sample.id ∧ entry.input = sample.input ∧ entry.target = sample.target ∧
        ∃ call ∈ (gradedQuestion.run plainProfile { maxConnections := 1 } {} none true).calls
            Scripts.answer contentGrader,
          call.party = .grader ∧
          call.question = Scorer.gradingQuestion "\x7banswer\x7d" "Grade it." sample
            entry.completion ∧
          (entry.credit = 0 ↔ ¬call.reply.output.GivesCredit) := by
  obtain ⟨attempt, score, error, -, ran⟩ := run_gradedQuestion
  exact ⟨_, _, ran, List.mem_singleton_self _, error,
    run_credit_eq_zero_iff _ _ _ _ _ _ _ _ ran (List.mem_singleton_self _)⟩

/-- A call that failed has credit when the grader is content with the wording of the failure. -/
theorem run_credits_failure :
    ¬∀ report, ((gradedQuestion.run plainProfile { maxConnections := 1 } {} none true).run
        Scripts.answer contentGrader).1 = .ok report →
      ∀ entry ∈ report.entries, entry.error ≠ none → entry.credit = 0 := by
  intro safe
  obtain ⟨attempt, score, error, rfl, ran⟩ := run_gradedQuestion
  have failed : attempt.output.error ≠ none := by
    rw [error]
    exact Option.some_ne_none _
  have none := safe _ ran _ (List.mem_singleton_self _) failed
  have front : Grade.atFront? "GRADE: C".toList = some ('c', []) := by decide
  have grade : Grade.ofText? "GRADE: C" = some .correct := by
    rw [Grade.ofText?, Grade.letters_of_atFront? front, Grade.pastLine, List.dropWhile_nil,
      Grade.letters]
    rfl
  have credit : (Output.ofText "grader" "GRADE: C" .stop .none).GivesCredit := ⟨rfl, grade⟩
  exact (credit_eq_zero_iff _).1 none
    ((ofGrading_verdict_eq_correct_iff attempt.output.completion _).2 credit)

end Task
end Assay
