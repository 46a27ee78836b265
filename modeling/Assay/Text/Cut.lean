import Assay.Text.Blank

/-!
# Cutting, joining and replacing

`cut` splits a text at every character of a class and always returns one piece more than it
finds such characters; `cutFirst` splits at the first occurrence of one character; `words` keeps
the pieces between blanks that are not empty; `replaceAll` substitutes one text for another,
from left to right and without looking again at what it inserted.
-/
namespace Assay.Text

/-- The pieces of a text between the characters of a class. -/
def cut (isCut : Char → Bool) : List Char → List (List Char)
  | [] => [[]]
  | c :: rest =>
    if isCut c then [] :: cut isCut rest
    else match cut isCut rest with
      | [] => [[c]]
      | piece :: pieces => (c :: piece) :: pieces

/-- Cutting leaves at least one piece. -/
theorem cut_ne_nil (isCut : Char → Bool) (text : List Char) : cut isCut text ≠ [] := by
  cases text with
  | nil => simp [cut]
  | cons c rest =>
    rw [cut]
    split
    · simp
    · split <;> simp

/-- What stands before and after the first occurrence of a character. -/
def cutFirst (mark : Char) : List Char → Option (List Char × List Char)
  | [] => none
  | c :: rest =>
    if c = mark then some ([], rest)
    else (cutFirst mark rest).map fun (before, after) => (c :: before, after)

/-- The texts between runs of blanks. -/
def words (text : List Char) : List (List Char) :=
  (cut isBlank text).filter (· ≠ [])

/-- What follows `lead` in a text that starts with it. -/
def after? : (lead text : List Char) → Option (List Char)
  | [], text => some text
  | _ :: _, [] => none
  | l :: lead, c :: text => if l = c then after? lead text else none

/-- Replace a text by another, where `passed` characters of the text belong to the occurrence
replaced last. -/
def replaceFrom (old new : List Char) : (passed : Nat) → List Char → List Char
  | _, [] => []
  | passed + 1, _ :: text => replaceFrom old new passed text
  | 0, c :: text =>
    if (after? old (c :: text)).isSome then new ++ replaceFrom old new (old.length - 1) text
    else c :: replaceFrom old new 0 text

/-- Replace every occurrence of a text that is not empty, from left to right. -/
def replaceAll (old new text : List Char) : List Char :=
  replaceFrom old new 0 text

end Assay.Text
