import Assay.Proofs.LowerCase
import Assay.Proofs.Cutting
import Assay.Text.Normal

/-!
# Words and articles

A word of a text is a longest run of word characters, said by what stands beside it. Word
characters are separated by all others, so the words of a text are the stretches between these, and
a text can be followed from one word to the next. Dropping articles goes from word to word in the
same way: each one goes or stays by itself, and as a blank comes in for an article, no two words
run together. What is left are the other words, in order.
-/
namespace Assay.Text

/-! ## Words -/

/-- A text has a word: a run of word characters with none before it and none after it. -/
def IsWordOf (text word : List Char) : Prop :=
  word ≠ [] ∧ (∀ c ∈ word, isWord c = true) ∧
    ∃ before after, text = before ++ word ++ after ∧
      (∀ c ∈ before.getLast?, isWord c = false) ∧ ∀ c ∈ after.head?, isWord c = false

/-- The words of a text in order, as what lies between the other characters. -/
def wordRuns (text : List Char) : List (List Char) :=
  stretches (fun c => !isWord c) text

section

variable {mark : Char} {word rest : List Char}

/-- Word characters alone are one word. -/
theorem wordRuns_of_inside (some : word ≠ []) (inside : ∀ c ∈ word, isWord c = true) :
    wordRuns word = [word] :=
  stretches_of_whole some fun c member => by simp [inside c member]

/-- Word characters alone have no word but all of them. -/
theorem eq_of_mem_wordRuns {left : List Char} (inside : ∀ c ∈ word, isWord c = true)
    (member : left ∈ wordRuns word) : left = word ∧ word ≠ [] :=
  eq_of_mem_stretches (fun c among => by simp [inside c among]) member

/-- A character that is in no word separates the words before it from those after it. -/
theorem wordRuns_append_cons (outside : isWord mark = false) (front rest : List Char) :
    wordRuns (front ++ mark :: rest) = wordRuns front ++ wordRuns rest :=
  stretches_append_cons (by simp [outside]) front rest

/-- A text is followed from word to word: it is one, or goes on behind the character after it. -/
@[elab_as_elim]
theorem wordwise {motive : List Char → Prop} (text : List Char)
    (last : ∀ word, (∀ c ∈ word, isWord c = true) → motive word)
    (step : ∀ word mark rest, (∀ c ∈ word, isWord c = true) → isWord mark = false →
      motive rest → motive (word ++ mark :: rest)) : motive text := by
  induction text using piecewise (fun c => !isWord c) with
  | last word whole => exact last word (by simpa using whole)
  | step word mark rest whole cuts ih =>
    exact step word mark rest (by simpa using whole) (by simpa using cuts) ih

/-- Word characters at the front of a text are its first word if none follows them. -/
theorem wordRuns_append (some : word ≠ []) (inside : ∀ c ∈ word, isWord c = true)
    (ends : ∀ c ∈ rest.head?, isWord c = false) :
    wordRuns (word ++ rest) = word :: wordRuns rest := by
  cases rest with
  | nil =>
    rw [List.append_nil, wordRuns_of_inside some inside]
    rfl
  | cons mark rest =>
    have outside : isWord mark = false := ends mark rfl
    have skipped : wordRuns (mark :: rest) = wordRuns rest := wordRuns_append_cons outside [] rest
    rw [wordRuns_append_cons outside, wordRuns_of_inside some inside, skipped]
    rfl

/-- Word characters at the front of a text are a word of it if none follows them. -/
theorem isWordOf_append (some : word ≠ []) (inside : ∀ c ∈ word, isWord c = true)
    (ends : ∀ c ∈ rest.head?, isWord c = false) : IsWordOf (word ++ rest) word :=
  ⟨some, inside, [], rest, rfl, by simp, ends⟩

/-- A word of what follows a character that is in no word is one of the whole text. -/
theorem IsWordOf.append_cons (isWordOf : IsWordOf rest word) (outside : isWord mark = false)
    (front : List Char) : IsWordOf (front ++ mark :: rest) word := by
  obtain ⟨some, inside, before, after, split, left, right⟩ := isWordOf
  refine ⟨some, inside, front ++ mark :: before, after, by simp [split], ?_, right⟩
  intro c last
  cases before with
  | nil =>
    have same : mark = c := by simpa using last
    exact same ▸ outside
  | cons d before => exact left c (by simpa using last)

/-- The words in order are the words of the text. -/
theorem mem_wordRuns_iff {text : List Char} : word ∈ wordRuns text ↔ IsWordOf text word := by
  constructor
  · intro member
    induction text using wordwise with
    | last front inside =>
      obtain ⟨rfl, some⟩ := eq_of_mem_wordRuns inside member
      have whole : IsWordOf (word ++ []) word := isWordOf_append some inside (by simp)
      rwa [List.append_nil] at whole
    | step front mark rest inside outside ih =>
      rw [wordRuns_append_cons outside, List.mem_append] at member
      rcases member with first | later
      · obtain ⟨rfl, some⟩ := eq_of_mem_wordRuns inside first
        exact isWordOf_append some inside (by simpa using outside)
      · exact (ih later).append_cons outside front
  · rintro ⟨some, inside, before, after, rfl, left, right⟩
    have first := wordRuns_append some inside right
    rcases List.eq_nil_or_concat' before with rfl | ⟨front, mark, rfl⟩
    · simp [first]
    · have outside : isWord mark = false := left mark (by simp)
      have split : front ++ [mark] ++ word ++ after = front ++ mark :: (word ++ after) := by simp
      rw [split, wordRuns_append_cons outside, first]
      simp

/-! ## Dropping articles -/

/-- The first run of a text starts with its first character. -/
theorem exists_runs_cons (isIn : Char → Bool) (c : Char) (text : List Char) :
    ∃ run later, runs isIn (c :: text) = (c :: run) :: later := by
  rw [runs]
  split
  · split <;> exact ⟨_, _, rfl⟩
  · exact ⟨_, _, rfl⟩

/-- Characters that agree on membership of a class are the first run of a text if the next one
differs. -/
theorem runs_append {isIn : Char → Bool} {member : Bool} {run rest : List Char} (some : run ≠ [])
    (agree : ∀ c ∈ run, isIn c = member) (ends : ∀ c ∈ rest.head?, isIn c ≠ member) :
    runs isIn (run ++ rest) = run :: runs isIn rest := by
  induction run with
  | nil => contradiction
  | cons c run ih =>
    have first : isIn c = member := agree c (List.mem_cons_self ..)
    cases run with
    | nil =>
      cases rest with
      | nil => rfl
      | cons d rest =>
        have other : isIn d ≠ member := ends d rfl
        obtain ⟨more, later, shape⟩ := exists_runs_cons isIn d rest
        rw [List.singleton_append, runs, shape]
        simp [first, Ne.symm other]
    | cons d run =>
      have second : isIn d = member := agree d (by simp)
      have found := ih (List.cons_ne_nil _ _) fun e among => agree e (List.mem_cons_of_mem _ among)
      rw [List.cons_append, runs, found]
      simp [first, second]

/-- What is left of a word when articles are dropped. -/
def kept (word : List Char) : List Char :=
  if isArticle word then [' '] else word

/-- Nothing is left to be dropped where no article is. -/
theorem kept_of_not_article (other : isArticle word = false) : kept word = word := by
  rw [kept, other]
  rfl

/-- Articles are made of word characters. -/
theorem isArticle_cons_of_outside (outside : isWord mark = false) (run : List Char) :
    isArticle (mark :: run) = false := by
  have letters : isWord 'a' = true ∧ isWord 't' = true := by decide +kernel
  have notA : mark ≠ 'a' := fun same => by simp [same, letters.1] at outside
  have notT : mark ≠ 't' := fun same => by simp [same, letters.2] at outside
  simp [isArticle, notA, notT]

/-- A character that is in no word stays. -/
theorem dropArticles_cons (outside : isWord mark = false) (text : List Char) :
    dropArticles (mark :: text) = mark :: dropArticles text := by
  change (runs isWord (mark :: text)).flatMap kept = mark :: (runs isWord text).flatMap kept
  have own : kept [mark] = [mark] := kept_of_not_article (isArticle_cons_of_outside outside [])
  rw [runs]
  split
  · next d run later found =>
    rw [found]
    by_cases agree : isWord mark = isWord d
    · rw [if_pos (by simpa using agree)]
      have longer := kept_of_not_article (isArticle_cons_of_outside outside (d :: run))
      have before := kept_of_not_article
        (isArticle_cons_of_outside (agree.symm.trans outside) run)
      simp [List.flatMap_cons, longer, before]
    · rw [if_neg (by simpa using agree), List.flatMap_cons, own]
      rfl
  · rw [List.flatMap_cons, own]
    rfl

/-- The first word of a text goes or stays by itself. -/
theorem dropArticles_append (inside : ∀ c ∈ word, isWord c = true)
    (ends : ∀ c ∈ rest.head?, isWord c = false) :
    dropArticles (word ++ rest) = kept word ++ dropArticles rest := by
  by_cases some : word = []
  · rw [some]
    rfl
  · change (runs isWord (word ++ rest)).flatMap kept = _
    rw [runs_append some inside fun c first => by simp [ends c first]]
    rfl

/-- A word alone goes or stays. -/
theorem dropArticles_of_inside (inside : ∀ c ∈ word, isWord c = true) :
    dropArticles word = kept word := by
  have alone : dropArticles (word ++ []) = kept word ++ dropArticles [] :=
    dropArticles_append inside (by simp)
  rw [List.append_nil] at alone
  rw [alone]
  exact List.append_nil _

/-- A word before another character goes or stays, and the character stays. -/
theorem dropArticles_append_cons (inside : ∀ c ∈ word, isWord c = true)
    (outside : isWord mark = false) (rest : List Char) :
    dropArticles (word ++ mark :: rest) = kept word ++ mark :: dropArticles rest := by
  rw [dropArticles_append inside (by simpa using outside), dropArticles_cons outside]

/-- Blanks are in no word. -/
theorem isWord_of_isBlank {c : Char} (blank : isBlank c = true) : isWord c = false := by
  have all : (blanks.all fun c => !isWord c) = true := by decide +kernel
  simpa using of_isBlank all blank

/-- What is left of a word is the word, or nothing of an article. -/
theorem wordRuns_kept (inside : ∀ c ∈ word, isWord c = true) :
    wordRuns (kept word) = (wordRuns word).filter fun word => !isArticle word := by
  by_cases some : word = []
  · rw [some]
    rfl
  · rw [wordRuns_of_inside some inside]
    cases article : isArticle word with
    | true =>
      have none : wordRuns [' '] = [] := wordRuns_append_cons (isWord_of_isBlank rfl) [] []
      rw [kept, article, if_pos rfl, none, List.filter_cons_of_neg (by simp [article])]
      rfl
    | false =>
      rw [kept_of_not_article article, wordRuns_of_inside some inside,
        List.filter_cons_of_pos (by simp [article])]
      rfl

/-- Dropping articles leaves the other words in order. -/
theorem wordRuns_dropArticles (text : List Char) :
    wordRuns (dropArticles text) = (wordRuns text).filter fun word => !isArticle word := by
  induction text using wordwise with
  | last word inside => rw [dropArticles_of_inside inside, wordRuns_kept inside]
  | step word mark rest inside outside ih =>
    rw [dropArticles_append_cons inside outside, wordRuns_append_cons outside,
      wordRuns_append_cons outside, List.filter_append, wordRuns_kept inside, ih]

/-- A text without articles stays as it is. -/
theorem dropArticles_of_articleless {text : List Char}
    (articleless : ∀ word ∈ wordRuns text, isArticle word = false) : dropArticles text = text := by
  have stays : ∀ front : List Char, (∀ c ∈ front, isWord c = true) →
      (∀ word ∈ wordRuns front, isArticle word = false) → kept front = front := by
    intro front inside articleless
    by_cases some : front = []
    · rw [some]
      rfl
    · exact kept_of_not_article (articleless front (by simp [wordRuns_of_inside some inside]))
  induction text using wordwise with
  | last front inside =>
    rw [dropArticles_of_inside inside]
    exact stays front inside articleless
  | step front mark rest inside outside ih =>
    rw [wordRuns_append_cons outside, List.forall_mem_append] at articleless
    rw [dropArticles_append_cons inside outside, stays front inside articleless.1,
      ih articleless.2]

/-- Dropping articles brings nothing in but blanks. -/
theorem mem_dropArticles {text : List Char} {c : Char} (member : c ∈ dropArticles text) :
    c = ' ' ∨ c ∈ text := by
  obtain ⟨run, among, inside⟩ := List.mem_flatMap.1 member
  by_cases article : isArticle run = true
  · rw [if_pos article, List.mem_singleton] at inside
    exact .inl inside
  · rw [if_neg article] at inside
    rw [← flatten_runs isWord text]
    exact .inr (List.mem_flatten.2 ⟨run, among, inside⟩)

end

end Assay.Text
