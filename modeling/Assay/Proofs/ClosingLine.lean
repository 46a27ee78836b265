import Assay.Proofs.Grading

/-!
# The line that closes a grader's text

Blanks in a grade may cross the end of a line, so a grade begun on one line could continue on the
next. It cannot where the next line starts, behind its blanks, with neither a colon nor a letter of
a verdict: then the grades of a text are those before the line and those from the line on
(`letters_append_of_fresh`). A line that states a verdict starts with the word, so it is such a
line, and its grade is the last one if the word does not come up again on a later line: whatever a
grader has written before, this is the verdict (`ofText?_closing`).
-/
namespace Assay.Grade

open Text

/-! ## Where no grade goes on -/

/-- A letter that stands for a verdict, in either case. -/
def isVerdict (c : Char) : Bool :=
  c.toLower = 'c' ∨ c.toLower = 'p' ∨ c.toLower = 'i'

/-- No grade that is begun before a text continues in it: behind its blanks it starts with neither
a colon nor a letter of a verdict. -/
def IsFresh (text : List Char) : Prop :=
  ∀ c ∈ (text.dropWhile isBlank).head?, c ≠ ':' ∧ isVerdict c = false

section

variable {front line : List Char}

/-- A line end behind a text neither completes nor breaks a word at its front. -/
theorem afterWord?_append {letters : List Char} (unbroken : '\n' ∉ letters) :
    afterWord? letters (front ++ '\n' :: line) =
      (afterWord? letters front).map (· ++ '\n' :: line) := by
  induction letters generalizing front with
  | nil => rfl
  | cons w letters ih =>
    have other : '\n' ≠ w := fun same => unbroken (same ▸ List.mem_cons_self ..)
    have later : '\n' ∉ letters := fun member => unbroken (List.mem_cons_of_mem _ member)
    cases front with
    | nil => exact if_neg other
    | cons c front =>
      rw [List.cons_append, afterWord?, afterWord?]
      by_cases same : c.toLower = w
      · rw [if_pos same, if_pos same, ih later]
      · rw [if_neg same, if_neg same]
        rfl

/-- A step to the next character that is no blank, if it is of a class. -/
def pastBlanks? (isNext : Char → Bool) (text : List Char) : Option (Char × List Char) :=
  match text.dropWhile isBlank with
  | c :: rest => if isNext c then some (c, rest) else none
  | [] => none

/-- A grade at the front of a text is the word and two steps past blanks. -/
theorem atFront?_eq (text : List Char) :
    atFront? text = (afterWord? word text).bind fun after =>
      (pastBlanks? (· = ':') after).bind fun (_, behind) =>
        (pastBlanks? isVerdict behind).map fun (letter, rest) => (letter.toLower, rest) := by
  rw [atFront?]
  cases afterWord? word text with
  | none => rfl
  | some after =>
    rw [Option.map_some, Option.bind_some, pastBlanks?]
    cases after.dropWhile isBlank with
    | nil => rfl
    | cons c behind =>
      by_cases colon : c = ':'
      · subst colon
        simp only [decide_true, if_true, Option.bind_some, pastBlanks?]
        cases behind.dropWhile isBlank with
        | nil => rfl
        | cons d rest =>
          by_cases known : d.toLower = 'c' ∨ d.toLower = 'p' ∨ d.toLower = 'i'
          · simp only [isVerdict, known, decide_true, if_true, Option.map_some]
          · simp only [isVerdict, known, decide_false, if_false, Option.map_none,
              Bool.false_eq_true]
      · simp only [colon, decide_false, if_false, Bool.false_eq_true, Option.bind_none]
        split
        · next found => exact absurd (List.cons.inj (Option.some.inj found)).1 colon
        · rfl

/-- A step past blanks does not lead into a line that starts with another character. -/
theorem pastBlanks?_append {isNext : Char → Bool}
    (stops : ∀ c ∈ (line.dropWhile isBlank).head?, isNext c = false) (text : List Char) :
    pastBlanks? isNext (text ++ '\n' :: line) =
      (pastBlanks? isNext text).map fun (c, rest) => (c, rest ++ '\n' :: line) := by
  have beyond : pastBlanks? isNext ('\n' :: line) = none := by
    have lineEnd : ('\n' :: line).dropWhile isBlank = line.dropWhile isBlank := rfl
    rw [pastBlanks?, lineEnd]
    cases opened : line.dropWhile isBlank with
    | nil => rfl
    | cons c rest => simp [stops c (by simp [opened])]
  rw [pastBlanks?, List.dropWhile_append]
  cases found : text.dropWhile isBlank with
  | nil =>
    rw [List.isEmpty_nil, if_pos rfl, ← pastBlanks?, beyond, pastBlanks?, found]
    rfl
  | cons c rest =>
    rw [pastBlanks?, found]
    by_cases next : isNext c = true
    · simp [next]
    · simp [next]

/-- A grade is found at the front of a text that a fresh line follows exactly when it is found
there without the line. -/
theorem atFront?_append (fresh : IsFresh line) (front : List Char) :
    atFront? (front ++ '\n' :: line) =
      (atFront? front).map fun (letter, rest) => (letter, rest ++ '\n' :: line) := by
  have noColon : ∀ c ∈ (line.dropWhile isBlank).head?, decide (c = ':') = false :=
    fun c first => decide_eq_false (fresh c first).1
  have noLetter : ∀ c ∈ (line.dropWhile isBlank).head?, isVerdict c = false :=
    fun c first => (fresh c first).2
  simp only [atFront?_eq, afterWord?_append (by decide : '\n' ∉ word),
    pastBlanks?_append noColon, pastBlanks?_append noLetter, Option.bind_map, Option.map_bind,
    Option.map_map, Function.comp_def]

/-- The first line of a text ends at the same place when more lines follow. -/
theorem pastLine_append (text : List Char) :
    pastLine (text ++ '\n' :: line) = pastLine text ++ '\n' :: line := by
  rw [pastLine, pastLine, List.dropWhile_append]
  cases text.dropWhile (· != '\n') with
  | nil => rfl
  | cons c rest => rfl

/-- No grade stands at the front of a text that does not start with the first letter of the
word. -/
theorem atFront?_cons_eq_none {c : Char} (other : c.toLower ≠ 'g') (text : List Char) :
    atFront? (c :: text) = none := by
  rw [atFront?, word, afterWord?, if_neg other]
  rfl

/-- A fresh line adds its grades to those before it and takes none away. -/
theorem letters_append_of_fresh (fresh : IsFresh line) (front : List Char) :
    letters (front ++ '\n' :: line) = letters front ++ letters line := by
  induction front using letters.induct with
  | case1 =>
    -- The line end starts no grade itself.
    rw [List.nil_append, letters_cons_of_none (atFront?_cons_eq_none (by decide) line), letters]
    rfl
  | case2 c text letter rest found shorter ih =>
    -- A grade before the line takes up no more than the rest of its own line.
    have longer : atFront? (c :: text ++ '\n' :: line) = some (letter, rest ++ '\n' :: line) := by
      rw [atFront?_append fresh, found]
      rfl
    rw [letters_of_atFront? longer, letters_of_atFront? found, pastLine_append, ih]
    rfl
  | case3 c text none ih =>
    have still : atFront? (c :: (text ++ '\n' :: line)) = .none := by
      rw [← List.cons_append, atFront?_append fresh, none]
      rfl
    rw [List.cons_append, letters_cons_of_none still, letters_cons_of_none none, ih]

end

/-! ## The line with the verdict -/

/-- A line states a verdict: it is a grade with a letter, with blanks before it and anything but a
line end behind it. -/
inductive IsVerdictLine : Char → List Char → Prop
  | intro {lead grade rest : List Char} {letter : Char}
    (blankLead : ∀ c ∈ lead, isBlank c = true) (isGrade : IsGrade letter grade)
    (unbroken : '\n' ∉ rest) : IsVerdictLine letter (lead ++ (grade ++ rest))

/-- A text closes after the line with the verdict: it ends there, or goes on on the next line and
never comes to the word again, in any letter case. -/
def IsClosing (tail : List Char) : Prop :=
  tail = [] ∨ ∃ after, tail = '\n' :: after ∧ ¬word <:+: after.map Char.toLower

/-- A grade starts with the first letter of the word. -/
theorem IsGrade.exists_cons {letter : Char} {grade : List Char} (isGrade : IsGrade letter grade) :
    ∃ first rest, grade = first :: rest ∧ first.toLower = 'g' := by
  cases isGrade with
  | @intro spelled before after letter spells blankBefore blankAfter known =>
    cases spelled with
    | nil => contradiction
    | cons first spelled => exact ⟨first, _, rfl, (List.cons.inj spells).1⟩

/-- A character that starts the word is no blank. -/
theorem not_isBlank_of_first {c : Char} (first : c.toLower = 'g') : isBlank c = false := by
  rw [Bool.eq_false_iff]
  intro blank
  rw [toLower_of_isBlank blank] at first
  subst first
  contradiction

/-- No grade that is begun earlier continues in a line that states a verdict. -/
theorem IsVerdictLine.fresh {letter : Char} {line : List Char}
    (states : IsVerdictLine letter line) (tail : List Char) : IsFresh (line ++ tail) := by
  cases states with
  | @intro lead grade rest letter blankLead isGrade unbroken =>
    obtain ⟨first, behind, rfl, starts⟩ := isGrade.exists_cons
    have opened : (lead ++ (first :: behind ++ rest) ++ tail).dropWhile isBlank =
        first :: (behind ++ rest ++ tail) := by
      simp only [List.cons_append, List.append_assoc]
      exact dropWhile_isBlank blankLead (not_isBlank_of_first starts)
    intro c member
    rw [opened, List.head?_cons] at member
    obtain rfl := Option.some.inj member
    refine ⟨?_, by simp [isVerdict, starts]⟩
    rintro rfl
    contradiction

/-- No grades are found where the word does not come up. -/
theorem letters_eq_nil_of_wordless {text : List Char}
    (wordless : ¬word <:+: text.map Char.toLower) : letters text = [] := by
  rw [List.eq_nil_iff_forall_not_mem]
  intro letter member
  obtain ⟨place, grade, rest, isGrade, split⟩ := exists_occursAt_of_mem_letters member
  cases isGrade with
  | @intro spelled before after letter spells blankBefore blankAfter known =>
    have whole : text.take place ++ spelled ++ ((before ++ ':' :: (after ++ [letter])) ++ rest) =
        text := by
      rw [List.append_assoc, ← List.append_assoc spelled, ← split, List.take_append_drop]
    have inside : spelled <:+: text := ⟨_, _, whole⟩
    exact wordless (spells ▸ inside.map Char.toLower)

/-- No grades are found after a text has closed. -/
theorem letters_eq_nil_of_closing {tail : List Char} (closing : IsClosing tail) :
    letters tail = [] := by
  rcases closing with rfl | ⟨after, rfl, wordless⟩
  · rw [letters]
  · rw [letters_cons_of_none (atFront?_cons_eq_none (by decide) after)]
    exact letters_eq_nil_of_wordless wordless

/-- Where a text closes a line has ended. -/
theorem pastLine_of_closing {rest tail : List Char} (unbroken : '\n' ∉ rest)
    (closing : IsClosing tail) : pastLine (rest ++ tail) = tail := by
  have passed : ∀ c ∈ rest, (c != '\n') = true := fun c member =>
    bne_iff_ne.2 fun same => unbroken (same ▸ member)
  rw [pastLine, List.dropWhile_append_of_pos passed]
  rcases closing with rfl | ⟨after, rfl, -⟩ <;> rfl

/-- From a line that states a verdict on until the text closes its grade is the only one. -/
theorem letters_of_isVerdictLine {letter : Char} {line tail : List Char}
    (states : IsVerdictLine letter line) (closing : IsClosing tail) :
    letters (line ++ tail) = [letter] := by
  cases states with
  | @intro lead grade rest letter blankLead isGrade unbroken =>
    induction lead with
    | nil =>
      have found : atFront? (grade ++ (rest ++ tail)) = some (letter, rest ++ tail) :=
        atFront?_eq_some_iff.2 ⟨grade, isGrade, rfl⟩
      rw [List.nil_append, List.append_assoc, letters_of_atFront? found,
        pastLine_of_closing unbroken closing, letters_eq_nil_of_closing closing]
    | cons c lead ih =>
      have blank : isBlank c = true := blankLead c (List.mem_cons_self ..)
      have other : c.toLower ≠ 'g' := fun starts => by
        simp [not_isBlank_of_first starts] at blank
      rw [List.cons_append, List.cons_append,
        letters_cons_of_none (atFront?_cons_eq_none other _)]
      exact ih fun d member => blankLead d (List.mem_cons_of_mem _ member)

/-- The verdict of a text is that of the line that closes it, whatever stands before that line. -/
theorem ofText?_closing {preamble line tail : String} {letter : Char}
    (states : IsVerdictLine letter line.toList) (closing : IsClosing tail.toList) :
    ofText? (preamble ++ "\n" ++ line ++ tail) = some (ofLetter letter) := by
  have spelled : (preamble ++ "\n" ++ line ++ tail).toList =
      preamble.toList ++ '\n' :: (line.toList ++ tail.toList) := by
    simp [String.toList_append]
  rw [ofText?, spelled, letters_append_of_fresh (states.fresh tail.toList),
    letters_of_isVerdictLine states closing, List.getLast?_append]
  rfl

/-- A preamble that quotes a grade and ends in the middle of another one. -/
def quotingPreamble : String := "I end with GRADE: C or GRADE: I. So GRADE:"

/-- A line with the verdict that names another grade afterwards. -/
def verdictLine : String := "\tgrade : i, not GRADE: C"

/-- The line states the verdict I. -/
theorem isVerdictLine_verdictLine : IsVerdictLine 'i' verdictLine.toList := by
  have isGrade : IsGrade 'i' "grade : i".toList :=
    @IsGrade.intro "grade".toList [' '] [' '] 'i' (by decide) (List.all_eq_true.1 (by decide))
      (List.all_eq_true.1 (by decide)) (by decide)
  exact @IsVerdictLine.intro ['\t'] _ ", not GRADE: C".toList 'i'
    (List.all_eq_true.1 (by decide)) isGrade (by decide)

/-- After the preamble the line closes a text with the verdict I. -/
theorem ofText?_closing_verdictLine :
    IsVerdictLine 'i' verdictLine.toList ∧ IsClosing "\nDone.".toList ∧
      ofText? (quotingPreamble ++ "\n" ++ verdictLine ++ "\nDone.") = some (ofLetter 'i') := by
  have closing : IsClosing "\nDone.".toList := .inr ⟨"Done.".toList, rfl, by decide⟩
  exact ⟨isVerdictLine_verdictLine, closing, ofText?_closing isVerdictLine_verdictLine closing⟩

end Assay.Grade
