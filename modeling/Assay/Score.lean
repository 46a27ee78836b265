import Assay.Json.Value

/-!
# Scores

A score is a verdict on an answer, with the answer and an explanation where there is one.
-/
namespace Assay

open Json

/-- Whether an answer earns credit. -/
inductive Verdict where
  | correct
  | incorrect
deriving DecidableEq

/-- The credit for an answer. -/
def Verdict.credit : Verdict → Float
  | .correct => 1.0
  | .incorrect => 0.0

/-- The letter for a verdict. -/
def Verdict.letter : Verdict → String
  | .correct => "C"
  | .incorrect => "I"

/-- A verdict on an answer. -/
structure Score where
  verdict : Verdict
  answer : Option String
  explanation : Option String
deriving DecidableEq

namespace Score

/-- Credit for an answer. -/
def correct (answer : String) : Score := ⟨.correct, some answer, none⟩

/-- No credit for an answer, and why. -/
def incorrect (answer explanation : String) : Score :=
  ⟨.incorrect, some answer, some explanation⟩

/-- A score as JSON. -/
def toJson (score : Score) : Value :=
  .ofFields [("answer", score.answer.map .text), ("explanation", score.explanation.map .text),
    ("value", some (.text score.verdict.letter))]

end Score
end Assay
