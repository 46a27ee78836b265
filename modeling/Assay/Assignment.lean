import Assay.Text.Cut

/-!
# Assignments

Options are given in one text as assignments `key=value` between commas. Blanks around a part, a
key or a value do not count, and neither does a part that is empty; a value may hold the equals
sign. The parts of two texts with a comma between them are the parts of the one and then those
of the other.
-/
namespace Assay.Assignment

open Text

/-- The parts of a text between commas that are not blank, without blanks at their ends. -/
def parts (text : List Char) : List (List Char) :=
  ((cut (· = ',') text).map trim).filter (· ≠ [])

/-- The key and the value of a part, unless it holds no equals sign. -/
def ofPart? (part : List Char) : Option (List Char × List Char) :=
  (cutFirst '=' part).map fun (key, value) => (trim key, trim value)

/-- Apply one part to what the parts before it have set. -/
def apply {σ ε : Type} (malformed : String → ε) (set : σ → (key value : List Char) → Except ε σ)
    (state : σ) (part : List Char) : Except ε σ :=
  match ofPart? part with
  | some (key, value) => set state key value
  | none => .error (malformed (String.ofList part))

/-- Apply the assignments in a text from left to right, up to the first that is refused. -/
def applyAll {σ ε : Type} (malformed : String → ε)
    (set : σ → (key value : List Char) → Except ε σ) (state : σ) (text : List Char) :
    Except ε σ :=
  (parts text).foldlM (apply malformed set) state

end Assay.Assignment
