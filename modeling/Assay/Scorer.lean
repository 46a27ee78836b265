import Assay.AnswerList
import Assay.Attempt
import Assay.Grade

/-!
# Scorers

A finished attempt is scored by comparing its completion with the reference answers as lists, or
by asking the grader. A grader that fails, or that states no grade, earns the attempt nothing.
-/
namespace Assay

/-- How attempts are scored. -/
inductive Scorer where
  /-- Compare the completion with the reference answers. The sample says by its metadata whether
  their order counts. -/
  | answerList
  /-- Ask the grader, with a template and the instructions that fill its last placeholder. -/
  | graded (template instructions : String)

namespace Scorer

/-- The instructions that a grader gets where a task names none. -/
def defaultInstructions : String :=
  "After assessing the submitted answer, reply with 'GRADE: $LETTER' (without quotes) where " ++
    "LETTER is one of CI.  Please choose ONE option for the grade: either \"C\" for correct " ++
    "answers, or \"I\" for incorrect answers.\n\nFor example, after reviewing a correct answer you " ++
    "might write 'GRADE: C' or after reviewing an incorrect answer you might write 'GRADE: I'.\n\n" ++
    "First, write out in a step by step manner your reasoning about the criterion to be sure that " ++
    "your conclusion is correct. Avoid simply stating the correct answers at the outset. Then, end " ++
    "with your answer formatted as 'GRADE: $LETTER' (without quotes) where LETTER is one of CI."

/-- What the grader is asked about an attempt. -/
def gradingPrompt (template instructions : String) (attempt : Attempt) : String :=
  Text.fill template [("question", attempt.sample.input), ("answer", attempt.output.completion),
    ("criterion", ", ".intercalate attempt.sample.target), ("instructions", instructions)]

/-- The score that the grader's output gives to an answer. -/
def ofGrading (answer : String) (grading : Output) : Score :=
  match grading.error with
  | some error => .incorrect answer ("Grader error: " ++ error)
  | none =>
    match Grade.ofText? grading.completion with
    | some verdict => ⟨verdict, some answer, some grading.completion⟩
    | none => .incorrect answer ("Grade not found in model output: " ++ grading.completion)

/-- Score an attempt. -/
def score (attempt : Attempt) : Scorer → ExceptT Error (Act inquiring) Score
  | .answerList =>
    pure (AnswerList.score attempt.output.completion attempt.sample.target
      (attempt.sample.flag "ignore_order"))
  | .graded template instructions => do
    let prompt := gradingPrompt template instructions attempt
    let generation ← Party.grader.ask ⟨[.ofUser prompt], [], none, {}⟩
    pure (ofGrading attempt.output.completion generation.output)

end Scorer
end Assay
