import Assay.Proofs.Credit
import Mathlib.Data.List.TakeWhile
import Mathlib.Order.Nat

/-!
# Grades in a grader's text

A grade may stand anywhere in a text, also more than once on a line. Which of them are seen
follows from how a grade takes up the rest of its line: the letters that are found are those of
grades that stand in the text, and there are some as soon as one grade stands there. Of the grades
on a single line the first one is the verdict, where the last one was meant: `ofText?_of_isLast`
says when that makes a difference. `score_graded` says what a graded answer is worth, from the
call to the grader whose reply is final.
-/
namespace Assay

namespace Grade

open Text

/-- A text is a grade with a letter: the word in any letter case, a colon with blanks on both
sides, and one of the three letters in either case, which is told in lower case. -/
inductive IsGrade : Char → List Char → Prop
  | intro {spelled before after : List Char} {letter : Char}
    (spells : spelled.map Char.toLower = word) (blankBefore : ∀ c ∈ before, isBlank c = true)
    (blankAfter : ∀ c ∈ after, isBlank c = true)
    (known : letter.toLower = 'c' ∨ letter.toLower = 'p' ∨ letter.toLower = 'i') :
    IsGrade letter.toLower (spelled ++ (before ++ ':' :: (after ++ [letter])))

/-- A grade with a letter stands at a place of a text. -/
def OccursAt (text : List Char) (place : Nat) (letter : Char) : Prop :=
  ∃ grade rest, IsGrade letter grade ∧ text.drop place = grade ++ rest

/-- The places of a text at which grades stand. -/
def places (text : List Char) : Set Nat := {place | ∃ letter, OccursAt text place letter}

/-- The first grade of a text has a letter. -/
def IsFirst (text : List Char) (letter : Char) : Prop :=
  ∃ place, IsLeast (places text) place ∧ OccursAt text place letter

/-- The last grade of a text has a letter. -/
def IsLast (text : List Char) (letter : Char) : Prop :=
  ∃ place, IsGreatest (places text) place ∧ OccursAt text place letter

/-- What follows a word in a text follows a spelling of the word. -/
theorem afterWord?_eq_some_iff {word text rest : List Char} :
    afterWord? word text = some rest ↔
      ∃ spelled, spelled.map Char.toLower = word ∧ text = spelled ++ rest := by
  induction word generalizing text with
  | nil =>
    constructor
    · intro found
      exact ⟨[], rfl, Option.some.inj found⟩
    · rintro ⟨spelled, none, rfl⟩
      obtain rfl := List.map_eq_nil_iff.1 none
      rfl
  | cons w word ih =>
    cases text with
    | nil =>
      constructor
      · intro found
        contradiction
      · rintro ⟨spelled, spells, split⟩
        obtain ⟨rfl, -⟩ := List.append_eq_nil_iff.1 split.symm
        contradiction
    | cons c text =>
      rw [afterWord?]
      constructor
      · intro found
        by_cases same : c.toLower = w
        · rw [if_pos same] at found
          obtain ⟨spelled, spells, rfl⟩ := ih.1 found
          exact ⟨c :: spelled, by rw [List.map_cons, same, spells], rfl⟩
        · rw [if_neg same] at found
          contradiction
      · rintro ⟨spelled, spells, split⟩
        cases spelled with
        | nil => contradiction
        | cons first spelled =>
          obtain ⟨rfl, rfl⟩ := List.cons.inj split
          obtain ⟨same, spells⟩ := List.cons.inj spells
          rw [if_pos same]
          exact ih.2 ⟨spelled, spells, rfl⟩

/-- Blanks have no letter case. -/
theorem toLower_of_isBlank {c : Char} (blank : isBlank c = true) : c.toLower = c := by
  have outside : ¬('A'.val ≤ c.val ∧ c.val ≤ 'Z'.val) := by
    rintro ⟨least, greatest⟩
    have least : 65 ≤ c.toNat := UInt32.le_iff_toNat_le.1 least
    have greatest : c.toNat ≤ 90 := UInt32.le_iff_toNat_le.1 greatest
    simp only [isBlank, Bool.or_eq_true, Bool.and_eq_true, decide_eq_true_eq, beq_iff_eq] at blank
    omega
  exact dif_neg outside

/-- A letter that stands for a verdict is no blank. -/
theorem not_isBlank_of_known {letter : Char}
    (known : letter.toLower = 'c' ∨ letter.toLower = 'p' ∨ letter.toLower = 'i') :
    isBlank letter = false := by
  rw [Bool.eq_false_iff]
  intro blank
  have same := toLower_of_isBlank blank
  rw [same] at known
  rcases known with rfl | rfl | rfl <;> contradiction

/-- Blanks in front of a character that is none are dropped, and no more. -/
theorem dropWhile_isBlank {blanks rest : List Char} {c : Char}
    (all : ∀ c ∈ blanks, isBlank c = true) (other : isBlank c = false) :
    (blanks ++ c :: rest).dropWhile isBlank = c :: rest := by
  rw [List.dropWhile_append_of_pos all, List.dropWhile_cons, if_neg (by simp [other])]

/-- A text is what was dropped from its front, which are blanks, and what was left. -/
theorem exists_blanks (text : List Char) :
    ∃ blanks, (∀ c ∈ blanks, isBlank c = true) ∧ text = blanks ++ text.dropWhile isBlank :=
  ⟨text.takeWhile isBlank, List.all_eq_true.1 List.all_takeWhile,
    List.takeWhile_append_dropWhile.symm⟩

/-- A grade is found at the front of a text exactly when it stands there. -/
theorem atFront?_eq_some_iff {text rest : List Char} {letter : Char} :
    atFront? text = some (letter, rest) ↔ ∃ grade, IsGrade letter grade ∧ text = grade ++ rest := by
  constructor
  · intro found
    rw [atFront?] at found
    split at found
    · next behind opened =>
      obtain ⟨afterWord, spelled, colon⟩ := Option.map_eq_some_iff.1 opened
      obtain ⟨spelled, spells, rfl⟩ := afterWord?_eq_some_iff.1 spelled
      obtain ⟨before, blankBefore, shape⟩ := exists_blanks afterWord
      obtain ⟨after, blankAfter, tail⟩ := exists_blanks behind
      split at found
      · next c rest' opened =>
        by_cases known : c.toLower = 'c' ∨ c.toLower = 'p' ∨ c.toLower = 'i'
        · rw [if_pos known] at found
          obtain ⟨rfl, rfl⟩ := Prod.mk.inj (Option.some.inj found)
          refine ⟨_, .intro spells blankBefore blankAfter known, ?_⟩
          rw [shape, colon, tail, opened]
          simp
        · rw [if_neg known] at found
          contradiction
      · contradiction
    · contradiction
  · rintro ⟨grade, isGrade, rfl⟩
    cases isGrade with
    | @intro spelled before after letter spells blankBefore blankAfter known =>
      have atWord : afterWord? word
          (spelled ++ (before ++ ':' :: (after ++ [letter])) ++ rest) =
            some (before ++ ':' :: (after ++ letter :: rest)) :=
        afterWord?_eq_some_iff.2 ⟨spelled, spells, by simp⟩
      have atColon : (before ++ ':' :: (after ++ letter :: rest)).dropWhile isBlank =
          ':' :: (after ++ letter :: rest) := dropWhile_isBlank blankBefore rfl
      have atLetter : (after ++ letter :: rest).dropWhile isBlank = letter :: rest :=
        dropWhile_isBlank blankAfter (not_isBlank_of_known known)
      rw [atFront?, atWord, Option.map_some, atColon]
      simp only [atLetter, if_pos known]

/-- A grade stands at a place of a text exactly when it is found at the front of what is there. -/
theorem occursAt_iff {text : List Char} {place : Nat} {letter : Char} :
    OccursAt text place letter ↔ ∃ rest, atFront? (text.drop place) = some (letter, rest) := by
  constructor
  · rintro ⟨grade, rest, isGrade, split⟩
    exact ⟨rest, atFront?_eq_some_iff.2 ⟨grade, isGrade, split⟩⟩
  · rintro ⟨rest, found⟩
    obtain ⟨grade, isGrade, split⟩ := atFront?_eq_some_iff.1 found
    exact ⟨grade, rest, isGrade, split⟩

/-- Only one grade stands at a place. -/
theorem OccursAt.unique {text : List Char} {place : Nat} {letter other : Char}
    (one : OccursAt text place letter) (another : OccursAt text place other) : letter = other := by
  obtain ⟨rest, found⟩ := occursAt_iff.1 one
  obtain ⟨rest', found'⟩ := occursAt_iff.1 another
  exact (Prod.mk.inj (Option.some.inj (found.symm.trans found'))).1

/-- No grade stands in an empty text. -/
theorem not_occursAt_nil (place : Nat) (letter : Char) : ¬OccursAt [] place letter := by
  intro occurs
  obtain ⟨rest, found⟩ := occursAt_iff.1 occurs
  rw [List.drop_nil] at found
  contradiction

/-- What stands in the end of a text stands in the text. -/
theorem OccursAt.append {text : List Char} {place : Nat} {letter : Char}
    (occurs : OccursAt text place letter) (front : List Char) :
    OccursAt (front ++ text) (front.length + place) letter := by
  obtain ⟨grade, rest, isGrade, split⟩ := occurs
  refine ⟨grade, rest, isGrade, ?_⟩
  rw [List.drop_append, List.drop_of_length_le (by omega), List.nil_append]
  have same : front.length + place - front.length = place := by omega
  rw [same, split]

/-- Where no grade is found at the front of a text, its grades are those of the rest. -/
theorem letters_cons_of_none {c : Char} {text : List Char} (none : atFront? (c :: text) = none) :
    letters (c :: text) = letters text := by
  rw [letters]
  split
  · next letter rest found =>
    rw [none] at found
    contradiction
  · rfl

/-- A letter that is found is that of a grade in the text. -/
theorem exists_occursAt_of_mem_letters {text : List Char} {letter : Char}
    (member : letter ∈ letters text) : ∃ place, OccursAt text place letter := by
  induction text using letters.induct with
  | case1 =>
    rw [letters] at member
    contradiction
  | case2 c text first rest found shorter ih =>
    rw [letters_of_atFront? found] at member
    rcases List.mem_cons.1 member with rfl | later
    · exact ⟨0, occursAt_iff.2 ⟨rest, found⟩⟩
    · -- The next grade stands on a later line, which is an end of the text.
      obtain ⟨place, occurs⟩ := ih later
      obtain ⟨grade, -, split⟩ := atFront?_eq_some_iff.1 found
      have whole : c :: text = (grade ++ rest.takeWhile (· != '\n')) ++ pastLine rest := by
        rw [split, List.append_assoc, pastLine, List.takeWhile_append_dropWhile]
      rw [whole]
      exact ⟨_, occurs.append _⟩
  | case3 c text none ih =>
    rw [letters_cons_of_none none] at member
    obtain ⟨place, occurs⟩ := ih member
    exact ⟨place + 1, occurs⟩

/-- Letters are found as soon as a grade stands in a text. -/
theorem letters_ne_nil {text : List Char} {place : Nat} {letter : Char}
    (occurs : OccursAt text place letter) : letters text ≠ [] := by
  induction text generalizing place with
  | nil => exact absurd occurs (not_occursAt_nil place letter)
  | cons c text ih =>
    cases found : atFront? (c :: text) with
    | some grade =>
      rw [letters_of_atFront? found]
      exact List.cons_ne_nil _ _
    | none =>
      rw [letters_cons_of_none found]
      cases place with
      | zero =>
        obtain ⟨rest, here⟩ := occursAt_iff.1 occurs
        rw [List.drop_zero, found] at here
        contradiction
      | succ place => exact ih occurs

/-- The verdict for credit is that of a grade in the text. -/
theorem exists_occursAt_of_correct {text : String} (correct : ofText? text = some .correct) :
    ∃ place, OccursAt text.toList place 'c' := by
  obtain ⟨letter, last, verdict⟩ := Option.map_eq_some_iff.1 correct
  have isCredit : letter = 'c' := by
    rw [ofLetter] at verdict
    by_contra other
    rw [if_neg other] at verdict
    contradiction
  subst isCredit
  exact exists_occursAt_of_mem_letters (List.mem_of_getLast? last)

/-- There is no verdict exactly when no grade stands in the text. -/
theorem ofText?_eq_none_iff (text : String) :
    ofText? text = none ↔ ∀ place letter, ¬OccursAt text.toList place letter := by
  rw [ofText?, Option.map_eq_none_iff, List.getLast?_eq_none_iff]
  constructor
  · intro none place letter occurs
    exact letters_ne_nil occurs none
  · intro none
    rw [List.eq_nil_iff_forall_not_mem]
    intro letter member
    obtain ⟨place, occurs⟩ := exists_occursAt_of_mem_letters member
    exact none place letter occurs

/-! ## Several grades on a line -/

/-- The first grade of a text stands at its front if one does. -/
theorem IsFirst.of_front {text rest : List Char} {letter first : Char}
    (found : atFront? text = some (letter, rest)) (isFirst : IsFirst text first) :
    first = letter := by
  obtain ⟨place, least, occurs⟩ := isFirst
  have front : OccursAt text 0 letter := occursAt_iff.2 ⟨rest, found⟩
  have zero : place = 0 := Nat.le_zero.1 (least.2 ⟨letter, front⟩)
  subst zero
  exact occurs.unique front

/-- The first grade of a text without one at its front is that of the rest. -/
theorem IsFirst.of_cons {c : Char} {text : List Char} {first : Char}
    (none : atFront? (c :: text) = none) (isFirst : IsFirst (c :: text) first) :
    IsFirst text first := by
  obtain ⟨place, least, occurs⟩ := isFirst
  cases place with
  | zero =>
    obtain ⟨rest, here⟩ := occursAt_iff.1 occurs
    rw [List.drop_zero, none] at here
    contradiction
  | succ place =>
    refine ⟨place, ⟨⟨first, occurs⟩, fun other ⟨letter, also⟩ => ?_⟩, occurs⟩
    have later : place + 1 ≤ other + 1 := least.2 ⟨letter, also⟩
    exact Nat.le_of_succ_le_succ later

/-- A text with a grade has a first one. -/
theorem exists_isFirst {text : List Char} (graded : (places text).Nonempty) :
    ∃ first, IsFirst text first := by
  classical
  have least : IsLeast (places text) (Nat.find graded) := Nat.isLeast_find graded
  obtain ⟨first, occurs⟩ := least.1
  exact ⟨first, _, least, occurs⟩

/-- On a single line the first grade is the only one that is found, as it takes up the rest of the
line. -/
theorem letters_of_isFirst {text : List Char} {first : Char} (line : '\n' ∉ text)
    (isFirst : IsFirst text first) : letters text = [first] := by
  induction text with
  | nil =>
    obtain ⟨place, -, occurs⟩ := isFirst
    exact absurd occurs (not_occursAt_nil place first)
  | cons c text ih =>
    cases found : atFront? (c :: text) with
    | some grade =>
      obtain ⟨letter, rest⟩ := grade
      obtain rfl := isFirst.of_front found
      obtain ⟨grade, -, split⟩ := atFront?_eq_some_iff.1 found
      have ended : pastLine rest = [] := by
        rw [pastLine, List.dropWhile_eq_nil_iff]
        intro c member
        have inside : c ∈ grade ++ rest := List.mem_append_right _ member
        rw [← split] at inside
        have other : c ≠ '\n' := fun same => line (same ▸ inside)
        simpa using other
      rw [letters_of_atFront? found, ended, letters]
    | none =>
      rw [letters_cons_of_none found]
      exact ih (fun member => line (List.mem_cons_of_mem _ member)) (isFirst.of_cons found)

/-- Two letters stand for one verdict when both are for credit or neither is. -/
theorem ofLetter_eq_iff (letter other : Char) :
    ofLetter letter = ofLetter other ↔ (letter = 'c' ↔ other = 'c') := by
  simp only [ofLetter]
  by_cases first : letter = 'c' <;> by_cases second : other = 'c' <;> simp [first, second]

/-- The verdict of a text of one line is that of its first grade. The last grade is the verdict
exactly when both are for credit or neither is. -/
theorem ofText?_of_isLast {text : String} {last : Char} (line : '\n' ∉ text.toList)
    (isLast : IsLast text.toList last) :
    ∃ first, IsFirst text.toList first ∧ ofText? text = some (ofLetter first) ∧
      (ofText? text = some (ofLetter last) ↔ (first = 'c' ↔ last = 'c')) := by
  obtain ⟨place, greatest, occurs⟩ := isLast
  obtain ⟨first, isFirst⟩ := exists_isFirst ⟨place, greatest.1⟩
  have verdict : ofText? text = some (ofLetter first) := by
    rw [ofText?, letters_of_isFirst line isFirst]
    rfl
  refine ⟨first, isFirst, verdict, ?_⟩
  rw [verdict, Option.some.injEq]
  exact ofLetter_eq_iff first last

/-- A line on which a grade is quoted before the verdict is given. -/
def quotedLine : String := "Not 'GRADE: C'. GRADE: I"

/-- The verdict on the line is the last grade of it. -/
theorem isLast_quotedLine : IsLast quotedLine.toList 'i' := by
  have none : ∀ place < 25, 16 < place → atFront? (quotedLine.toList.drop place) = none := by
    decide
  have last : OccursAt quotedLine.toList 16 'i' := occursAt_iff.2 ⟨[], by decide⟩
  refine ⟨16, ⟨⟨'i', last⟩, ?_⟩, last⟩
  rintro place ⟨letter, occurs⟩
  obtain ⟨rest, found⟩ := occursAt_iff.1 occurs
  by_contra later
  by_cases inside : place < 25
  · rw [none place inside (by omega)] at found
    contradiction
  · have past : quotedLine.toList.drop place = [] :=
      List.drop_eq_nil_of_le (Nat.le_trans (by decide) (Nat.not_lt.1 inside))
    rw [past] at found
    contradiction

/-- The first grade on the line is the one that is quoted. -/
theorem isFirst_quotedLine : IsFirst quotedLine.toList 'c' := by
  have none : ∀ place < 5, atFront? (quotedLine.toList.drop place) = none := by decide
  have first : OccursAt quotedLine.toList 5 'c' :=
    occursAt_iff.2 ⟨"'. GRADE: I".toList, by decide⟩
  refine ⟨5, ⟨⟨'c', first⟩, ?_⟩, first⟩
  rintro place ⟨letter, occurs⟩
  obtain ⟨rest, found⟩ := occursAt_iff.1 occurs
  by_contra earlier
  rw [none place (Nat.not_le.1 earlier)] at found
  contradiction

/-- On the line that quotes a grade the verdict is not that of the last one. -/
theorem ofText?_of_isLast_quotedLine :
    '\n' ∉ quotedLine.toList ∧ IsLast quotedLine.toList 'i' ∧
      ∃ first, IsFirst quotedLine.toList first ∧ ofText? quotedLine = some (ofLetter first) ∧
        (ofText? quotedLine = some (ofLetter 'i') ↔ (first = 'c' ↔ 'i' = 'c')) := by
  have line : '\n' ∉ quotedLine.toList := by decide
  exact ⟨line, isLast_quotedLine, ofText?_of_isLast line isLast_quotedLine⟩

/-- The last grade on a line need not be the verdict: one that is quoted earlier is. -/
theorem ofText?_passes_over_last :
    '\n' ∉ quotedLine.toList ∧
      ¬∀ last, IsLast quotedLine.toList last → ofText? quotedLine = some (ofLetter last) := by
  have line : '\n' ∉ quotedLine.toList := by decide
  refine ⟨line, fun lastCounts => ?_⟩
  have verdict := lastCounts 'i' isLast_quotedLine
  rw [ofText?, letters_of_isFirst line isFirst_quotedLine] at verdict
  contradiction

end Grade

/-! ## What a graded answer is worth -/

/-- A verdict is an error exactly when the reply is a refusal. -/
theorem Profile.verdict_eq_error_iff {profile : Profile} {reply : Generation} {error : Error} :
    profile.verdict reply = .error error ↔ ∃ failure, reply.failure = some failure ∧
      profile.refusal failure = true ∧ error = .refused profile.connection failure := by
  rw [verdict]
  cases reply.failure with
  | none => simp
  | some failure =>
    by_cases refused : profile.refusal failure = true
    · simp only [refused, if_true, Except.error.injEq, Option.some.injEq]
      constructor
      · intro same
        exact ⟨failure, rfl, refused, same.symm⟩
      · rintro ⟨_, rfl, -, rfl⟩
        rfl
    · simp [refused]

/-- How the score of an answer follows from the output of the grader's final reply about it. -/
structure Scorer.Grades (answer : String) (grading : Output) (score : Score) : Prop where
  /-- The answer is kept as it is. -/
  answer : score.answer = some answer
  /-- An error earns nothing, whatever its text and that of the reply. -/
  failed : ∀ error, grading.error = some error →
    score.verdict = .incorrect ∧ score.explanation = some ("Grader error: " ++ error)
  /-- Credit takes a reply without an error in which a grade for credit stands. -/
  credited : score.verdict = .correct →
    grading.error = none ∧ ∃ place, Grade.OccursAt grading.completion.toList place 'c'
  /-- A reply in which no grade stands earns nothing. -/
  ungraded : grading.error = none →
    (∀ place letter, ¬Grade.OccursAt grading.completion.toList place letter) →
    score.verdict = .incorrect ∧
      score.explanation = some ("Grade not found in model output: " ++ grading.completion)

/-- The score that is made of the grader's output follows from it. -/
theorem Scorer.grades_ofGrading (answer : String) (grading : Output) :
    Grades answer grading (ofGrading answer grading) where
  answer := by
    rw [ofGrading]
    cases grading.error with
    | some error => rfl
    | none => cases Grade.ofText? grading.completion <;> rfl
  failed error found := by
    simp only [ofGrading, found]
    exact ⟨rfl, rfl⟩
  credited correct := by
    obtain ⟨sound, grade⟩ := (ofGrading_verdict_eq_correct_iff answer grading).1 correct
    exact ⟨sound, Grade.exists_occursAt_of_correct grade⟩
  ungraded sound none := by
    have ungraded := (Grade.ofText?_eq_none_iff grading.completion).2 none
    simp only [ofGrading, sound, ungraded]
    exact ⟨rfl, rfl⟩

/-- Scoring an answer by the grader puts one question to the grader until a reply is final. It
ends with an error exactly when the final reply is a refusal, and otherwise with a score that
follows from the output of that reply. -/
theorem Scorer.score_graded (template instructions : String) (attempt : Attempt)
    (profiles : Party → Profile) (settings : RunSettings) {σ : Type} (answer : Handler calling σ)
    (state : σ) :
    ∃ final : Generation,
      ((settings.answered profiles (score attempt (.graded template instructions))).calls answer
        state).getLast? = some ⟨.grader, gradingQuestion template instructions attempt.sample
          attempt.output.completion, final⟩ ∧
      (∀ error, ((settings.answered profiles (score attempt (.graded template
          instructions))).run answer state).1 = .error error ↔
        ∃ failure, final.failure = some failure ∧ (profiles .grader).refusal failure = true ∧
          error = .refused (profiles .grader).connection failure) ∧
      ∀ result, ((settings.answered profiles (score attempt (.graded template
          instructions))).run answer state).1 = .ok result →
        Grades attempt.output.completion final.output result := by
  have course := Act.Course.of_run answer state
    (settings.answered profiles (score attempt (.graded template instructions)))
  generalize ((settings.answered profiles (score attempt (.graded template instructions))).run
    answer state).1 = result at course
  generalize (settings.answered profiles (score attempt (.graded template instructions))).calls
    answer state = calls at course
  rw [score, answered_bind] at course
  obtain ⟨first, verdict, second, rfl, asked, scored⟩ := course.of_bind
  obtain ⟨round, inquiry, rfl, decided⟩ := course_ask asked
  have last : round.calls.getLast? = some ⟨.grader, gradingQuestion template instructions
      attempt.sample attempt.output.completion, round.final⟩ := by
    simp [Round.calls, inquiry]
    rfl
  refine ⟨round.final, ?_⟩
  simp only [← Profile.verdict_eq_error_iff, ← decided]
  cases verdict with
  | error error =>
    obtain ⟨rfl, rfl⟩ := scored.of_done
    rw [List.append_nil]
    exact ⟨last, fun other => by simp, fun result impossible => by contradiction⟩
  | ok generation =>
    obtain ⟨rfl, rfl⟩ := course_pure scored
    obtain rfl := Profile.eq_of_verdict decided.symm
    rw [List.append_nil]
    refine ⟨last, fun other => by simp, fun result same => ?_⟩
    rw [← Except.ok.inj same]
    exact grades_ofGrading _ _

end Assay
