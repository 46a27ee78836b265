import Assay.Text.WordTable

/-!
# Words

A word is a longest run of word characters. `runs` cuts a text into its words and what stands
between them, and loses nothing.
-/
namespace Assay.Text

/-- A letter, mark, decimal digit, connector or join control. -/
def isWord (c : Char) : Bool :=
  wordTable.holds c.toNat

/-- The longest runs of characters that agree on membership of a class, in order. -/
def runs (isIn : Char → Bool) : List Char → List (List Char)
  | [] => []
  | c :: text =>
    match runs isIn text with
    | (d :: run) :: later =>
      if isIn c == isIn d then (c :: d :: run) :: later else [c] :: (d :: run) :: later
    | later => [c] :: later

/-- The runs of a text in order are the text. -/
theorem flatten_runs (isIn : Char → Bool) (text : List Char) :
    (runs isIn text).flatten = text := by
  induction text with
  | nil => rfl
  | cons c text ih =>
    rw [runs]
    split
    · next d run later found =>
      rw [found] at ih
      split <;> simpa using ih
    · simpa using ih

end Assay.Text
