import Assay.Score
import Assay.Text.Cut

/-!
# Grades

A grader states its verdict as the word `GRADE` in any letter case, a colon and one of the letters
C, P and I, with blanks allowed on both sides of the colon. A grade takes up the rest of the line
on which its letter stands, so a second one on that line is not seen. The last grade counts, and
only C earns credit.
-/
namespace Assay.Grade

open Text

/-- The word before a grade, in lower case. -/
def word : List Char := ['g', 'r', 'a', 'd', 'e']

/-- What follows a word, in any letter case, in a text that starts with it. -/
def afterWord? : (word text : List Char) → Option (List Char)
  | [], text => some text
  | _ :: _, [] => none
  | w :: word, c :: text => if c.toLower = w then afterWord? word text else none

/-- The letter of a grade at the front of a text, in lower case, and what follows it. -/
def atFront? (text : List Char) : Option (Char × List Char) :=
  match (afterWord? word text).map (List.dropWhile isBlank) with
  | some (':' :: rest) =>
    match rest.dropWhile isBlank with
    | c :: rest =>
      if c.toLower = 'c' ∨ c.toLower = 'p' ∨ c.toLower = 'i' then some (c.toLower, rest) else none
    | [] => none
  | _ => none

/-- A text goes on behind a word that it starts with. -/
theorem length_afterWord?_le {word text rest : List Char}
    (found : afterWord? word text = some rest) : rest.length ≤ text.length := by
  induction word generalizing text with
  | nil => simp_all [afterWord?]
  | cons w word ih =>
    cases text with
    | nil => simp [afterWord?] at found
    | cons c text =>
      rw [afterWord?] at found
      split at found
      · exact Nat.le_succ_of_le (ih found)
      · contradiction

/-- Dropping characters from the front of a text does not make it longer. -/
theorem length_dropWhile_le (isIn : Char → Bool) (text : List Char) :
    (text.dropWhile isIn).length ≤ text.length :=
  (List.dropWhile_suffix isIn).length_le

/-- A grade at the front of a text takes some of it. -/
theorem length_atFront?_lt {text rest : List Char} {letter : Char}
    (found : atFront? text = some (letter, rest)) : rest.length < text.length := by
  rw [atFront?] at found
  split at found
  · next behind opened =>
    obtain ⟨after, word, shape⟩ := Option.map_eq_some_iff.1 opened
    have atWord := length_afterWord?_le word
    have atColon := length_dropWhile_le isBlank after
    rw [shape] at atColon
    split at found
    · next c tail opened =>
      have atLetter := length_dropWhile_le isBlank behind
      rw [opened] at atLetter
      split at found
      · simp only [Option.some.injEq, Prod.mk.injEq] at found
        obtain ⟨_, rfl⟩ := found
        simp only [List.length_cons] at atColon atLetter
        omega
      · contradiction
    · contradiction
  · contradiction

/-- A text from the end of its first line on. -/
def pastLine (text : List Char) : List Char :=
  text.dropWhile (· != '\n')

/-- The letters of the grades in a text, in order. -/
def letters : List Char → List Char
  | [] => []
  | c :: text =>
    match found : atFront? (c :: text) with
    | some (letter, rest) =>
      have _shorter : (pastLine rest).length < (c :: text).length :=
        Nat.lt_of_le_of_lt (length_dropWhile_le _ _) (length_atFront?_lt found)
      letter :: letters (pastLine rest)
    | none => letters text
termination_by text => text.length
decreasing_by
  · exact _shorter
  · exact Nat.lt_succ_self _

/-- A grade at the front of a text is the first one, and the next one is on a later line. -/
theorem letters_of_atFront? {text rest : List Char} {letter : Char}
    (found : atFront? text = some (letter, rest)) :
    letters text = letter :: letters (pastLine rest) := by
  cases text with
  | nil => contradiction
  | cons c text =>
    rw [letters]
    split
    · next first behind same =>
      obtain ⟨rfl, rfl⟩ := Prod.mk.inj (Option.some.inj (same.symm.trans found))
      rfl
    · next missing =>
      rw [missing] at found
      contradiction

/-- The verdict that a letter stands for. -/
def ofLetter (letter : Char) : Verdict :=
  if letter = 'c' then .correct else .incorrect

/-- The verdict of the last grade in a text. -/
def ofText? (text : String) : Option Verdict :=
  (letters text.toList).getLast?.map ofLetter

end Assay.Grade
