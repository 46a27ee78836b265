import Assay.Score
import Assay.Text.Normal

/-!
# Answers that are lists

An answer between commas is compared with a list of reference answers, item by item in normal
form. It has to have as many items as the reference; then either each item equals the reference
at its place, or, where the order does not count, each reference is among the items.
-/
namespace Assay.AnswerList

open Text (normal)

/-- The items of an answer, in normal form. -/
def items (answer : String) : List (List Char) :=
  (Text.cut (· = ',') answer.toList).map normal

/-- The reference answers in normal form. -/
def references (target : List String) : List (List Char) :=
  target.map fun reference => normal reference.toList

/-- The first place, counted from one, at which an item differs from its reference. -/
def firstDifference? : (place : Nat) → (items references : List (List Char)) →
    Option (Nat × List Char × List Char)
  | place, item :: items, reference :: references =>
    if item = reference then firstDifference? (place + 1) items references
    else some (place, item, reference)
  | _, _, _ => none

/-- Why an answer does not match the references, if it does not. -/
def fault? (items references : List (List Char)) (anyOrder : Bool) : Option String :=
  if items.length ≠ references.length then
    some ("Expected " ++ toString references.length ++ " items but got " ++
      toString items.length ++ " items.")
  else if anyOrder then
    (references.find? (· ∉ items)).map fun missing =>
      "Expected item '" ++ String.ofList missing ++ "' not found in answers."
  else
    (firstDifference? 1 items references).map fun (place, item, reference) =>
      "Item " ++ toString place ++ " expected to be '" ++ String.ofList reference ++
        "' but got '" ++ String.ofList item ++ "'."

/-- Score an answer against its references. -/
def score (answer : String) (target : List String) (anyOrder : Bool) : Score :=
  match fault? (items answer) (references target) anyOrder with
  | some fault => .incorrect answer fault
  | none => .correct answer

end Assay.AnswerList
