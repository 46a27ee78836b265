import Assay.Proofs.Articles
import Mathlib.Data.List.Chain

/-!
# Normal form

`IsNormal` says what a text in normal form looks like, without the steps that bring a text into
it. The steps undo nothing of each other: lowering goes first and leaves nothing to be lowered,
and joining what lies between blanks by single ones keeps every word as it is, since blanks are in
no word. So the outcome of `normal` is in normal form, and a text that is in normal form stays as
it is (`normal_eq_self_iff`).
-/
namespace Assay.Text

/-! ## Single blanks -/

/-- The blanks of a text are single spaces between other characters. -/
structure Spaced (text : List Char) : Prop where
  /-- The only blank is the space. -/
  plain : ∀ c ∈ text, isBlank c = true → c = ' '
  /-- No blank comes first. -/
  front : ∀ c ∈ text.head?, isBlank c = false
  /-- No blank comes last. -/
  back : ∀ c ∈ text.getLast?, isBlank c = false
  /-- No blank follows a blank. -/
  apart : text.IsChain fun c d => isBlank c = true → isBlank d = false

section

variable {text word rest : List Char}

/-- A text without blanks has none in a wrong place. -/
theorem spaced_of_whole (whole : ∀ c ∈ word, isBlank c = false) : Spaced word where
  plain c member blank := by simp [whole c member] at blank
  front c first := whole c (List.mem_of_mem_head? first)
  back c last := whole c (List.mem_of_mem_getLast? last)
  apart := by
    have anywhere : word.Pairwise fun c d => isBlank c = true → isBlank d = false :=
      List.pairwise_of_forall_mem_list fun _ _ d member _ => whole d member
    exact anywhere.isChain

/-- A space is in a right place between a text without blanks and one that is spaced. -/
theorem Spaced.cons (some : word ≠ []) (whole : ∀ c ∈ word, isBlank c = false)
    (more : rest ≠ []) (spaced : Spaced rest) : Spaced (word ++ ' ' :: rest) where
  plain c member blank := by
    rcases List.mem_append.1 member with before | after
    · simp [whole c before] at blank
    · rcases List.mem_cons.1 after with same | later
      · exact same
      · exact spaced.plain c later blank
  front c first := by
    rw [List.head?_append_of_ne_nil _ some] at first
    exact whole c (List.mem_of_mem_head? first)
  back c last := by
    rw [List.getLast?_append_of_ne_nil _ (List.cons_ne_nil _ _), ← List.singleton_append,
      List.getLast?_append_of_ne_nil _ more] at last
    exact spaced.back c last
  apart := by
    rw [List.isChain_append, List.isChain_cons]
    refine ⟨(spaced_of_whole whole).apart, ⟨fun d first _ => spaced.front d first,
      spaced.apart⟩, fun c last d _ blank => ?_⟩
    simp [whole c (List.mem_of_mem_getLast? last)] at blank

/-- What follows the space behind the first word of a spaced text is spaced and not empty. -/
theorem Spaced.of_append_cons {mark : Char} (spaced : Spaced (word ++ mark :: rest))
    (blank : isBlank mark = true) : word ≠ [] ∧ mark = ' ' ∧ rest ≠ [] ∧ Spaced rest := by
  have apart := (List.isChain_append.1 spaced.apart).2.1
  rw [List.isChain_cons] at apart
  have more : rest ≠ [] := by
    rintro rfl
    have last := spaced.back mark (by simp)
    simp [blank] at last
  refine ⟨?_, spaced.plain mark (by simp) blank, more, ?_⟩
  · rintro rfl
    have first := spaced.front mark rfl
    simp [blank] at first
  · constructor
    · exact fun c member => spaced.plain c (by simp [member])
    · exact fun c first => apart.1 c first blank
    · intro c last
      refine spaced.back c ?_
      rw [List.getLast?_append_of_ne_nil _ (List.cons_ne_nil _ _), ← List.singleton_append,
        List.getLast?_append_of_ne_nil _ more]
      exact last
    · exact apart.2

/-- Texts without blanks are spaced when single spaces join them. -/
theorem spaced_intercalate {texts : List (List Char)}
    (whole : ∀ text ∈ texts, text ≠ [] ∧ ∀ c ∈ text, isBlank c = false) :
    Spaced ([' '].intercalate texts) := by
  induction texts with
  | nil => exact spaced_of_whole (by simp)
  | cons text texts ih =>
    obtain ⟨some, free⟩ := whole text (List.mem_cons_self ..)
    cases texts with
    | nil =>
      rw [List.intercalate_singleton]
      exact spaced_of_whole free
    | cons next texts =>
      have later := fun other member => whole other (List.mem_cons_of_mem _ member)
      have more : [' '].intercalate (next :: texts) ≠ [] := by
        have first := (later next (List.mem_cons_self ..)).1
        cases texts <;> simp [List.intercalate_cons_cons, first]
      have joined : [' '].intercalate (text :: next :: texts) =
          text ++ ' ' :: [' '].intercalate (next :: texts) := by
        simp [List.intercalate_cons_cons]
      rw [joined]
      exact (ih later).cons some free more

/-- A spaced text is the join of what lies between its blanks. -/
theorem Spaced.intercalate_words (spaced : Spaced text) : [' '].intercalate (words text) = text := by
  induction text using piecewise isBlank with
  | last word whole =>
    by_cases some : word = []
    · rw [some]
      rfl
    · rw [words_eq_stretches, stretches_of_whole some whole, List.intercalate_singleton]
  | step word mark rest whole blank ih =>
    obtain ⟨some, rfl, more, later⟩ := spaced.of_append_cons blank
    have split := ih later
    have notNone : words rest ≠ [] := by
      intro none
      rw [none] at split
      exact more split.symm
    rw [words_eq_stretches, stretches_append_cons blank, stretches_of_whole some whole, ← words_eq_stretches,
      List.singleton_append, List.intercalate_cons_of_ne_nil notNone, split]
    simp

end

/-! ## The normal form -/

/-- A text is in normal form: it is in lower case, has no ASCII punctuation, its blanks are single
spaces between other characters, and none of its words is an article. -/
structure IsNormal (text : List Char) : Prop extends Spaced text where
  /-- Lowering changes nothing. -/
  lowered : lower text = text
  /-- There is no ASCII punctuation. -/
  unpunctuated : ∀ c ∈ text, isPunctuation c = false
  /-- No word is an article. -/
  articleless : ∀ word, IsWordOf text word → isArticle word = false

section

variable {text : List Char}

/-- What is between the blanks of a text is not empty and has no blank. -/
theorem whole_of_mem_words : ∀ word ∈ words text, word ≠ [] ∧ ∀ c ∈ word, isBlank c = false := by
  intro word member
  obtain ⟨some, inside⟩ := mem_stretches member
  exact ⟨some, fun c among => (inside c among).1⟩

/-- Joining what is between the blanks brings nothing in but spaces. -/
theorem mem_intercalate_words {c : Char} (member : c ∈ [' '].intercalate (words text)) :
    c = ' ' ∨ c ∈ text := by
  rcases mem_intercalate member with space | ⟨word, among, inside⟩
  · exact .inl space
  · exact .inr ((mem_stretches among).2 c inside).2

/-- A character of a normal form is a space or one of the lowered text that is no punctuation. -/
theorem mem_normal {c : Char} (member : c ∈ normal text) :
    c = ' ' ∨ c ∈ lower text ∧ isPunctuation c = false := by
  rcases mem_intercalate_words member with space | left
  · exact .inl space
  · rcases mem_dropArticles left with space | plain
    · exact .inl space
    · rw [List.mem_filter] at plain
      exact .inr ⟨plain.1, by simpa using plain.2⟩

/-- Joining by single spaces keeps the words of a text. -/
theorem wordRuns_intercalate_words (text : List Char) :
    wordRuns ([' '].intercalate (words text)) = wordRuns text :=
  stretches_intercalate_stretches (fun c blank => by simp [isWord_of_isBlank blank])
    (by simp [isWord_of_isBlank (c := ' ') rfl]) text

/-- The words of a normal form are those of the text in lower case without its ASCII punctuation,
articles left out. -/
theorem wordRuns_normal (text : List Char) :
    wordRuns (normal text) =
      (wordRuns ((lower text).filter fun c => !isPunctuation c)).filter
        fun word => !isArticle word := by
  rw [normal, wordRuns_intercalate_words, wordRuns_dropArticles]

/-- The normal form of a text is in normal form. -/
theorem isNormal_normal (text : List Char) : IsNormal (normal text) where
  toSpaced := spaced_intercalate whole_of_mem_words
  lowered := by
    refine lowerFrom_of_lowered fun c member => ?_
    rcases mem_normal member with rfl | ⟨lowered, -⟩
    · rfl
    · exact lowerChar_of_mem_lowerFrom lowered
  unpunctuated c member := by
    rcases mem_normal member with rfl | ⟨-, plain⟩
    · rfl
    · exact plain
  articleless word isWordOf := by
    have member := mem_wordRuns_iff.2 isWordOf
    rw [wordRuns_normal, List.mem_filter] at member
    simpa using member.2

/-- A text in normal form is its own normal form. -/
theorem IsNormal.normal_eq (isNormal : IsNormal text) : normal text = text := by
  have unpunctuated : text.filter (fun c => !isPunctuation c) = text :=
    List.filter_eq_self.2 fun c member => by simp [isNormal.unpunctuated c member]
  have articleless : dropArticles text = text :=
    dropArticles_of_articleless fun word member =>
      isNormal.articleless word (mem_wordRuns_iff.1 member)
  rw [normal, isNormal.lowered, unpunctuated, articleless, isNormal.toSpaced.intercalate_words]

/-- The texts in normal form are those that their normal form is equal to. -/
theorem normal_eq_self_iff : normal text = text ↔ IsNormal text := by
  constructor
  · intro same
    rw [← same]
    exact isNormal_normal text
  · exact IsNormal.normal_eq

/-- The normal form of a text is canonical: it is in normal form and its own normal form, and its
words are those of the text in lower case without ASCII punctuation, articles left out. -/
theorem normal_canonical (text : List Char) :
    IsNormal (normal text) ∧ normal (normal text) = normal text ∧
      wordRuns (normal text) =
        (wordRuns ((lower text).filter fun c => !isPunctuation c)).filter
          fun word => !isArticle word :=
  ⟨isNormal_normal text, (isNormal_normal text).normal_eq, wordRuns_normal text⟩

-- Punctuation goes before articles do, so it can leave one behind that is dropped as well.
example : normal "A.N. Answer:  the RIGHT one!".toList = "answer right one".toList := by
  decide +kernel

/-- A blank in front of a text has no part in its normal form. -/
theorem normal_cons_of_isBlank {c : Char} (blank : isBlank c = true) (text : List Char) :
    normal (c :: text) = normal text := by
  have plain : isPunctuation c = false := by
    have all : (blanks.all fun c => !isPunctuation c) = true := by decide +kernel
    simpa using of_isBlank all blank
  rw [normal, lower_cons_of_isBlank blank, List.filter_cons_of_pos (by simp [plain]),
    dropArticles_cons (isWord_of_isBlank blank), words_eq_stretches, stretches_cons blank]
  rfl

end

end Assay.Text
