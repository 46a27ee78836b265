import Assay.Text.Cut
import Mathlib.Data.List.Basic
import Mathlib.Data.List.DropRight

/-!
# Cutting a text

What lies between the characters of a class. Cutting is the splitting of a list, and its laws
follow from those of the list: a text that a cut divides has the pieces of both sides, so texts
that are joined by a cut have their pieces in order. A stretch is a piece that is not empty, and
the stretches of a text do not tell how many cuts stand in a row. Cutting the stretches along more
characters gives what cutting along these would have given at once.

Blanks at the two ends of a text are left out separately, on each side of any character that is no
blank.
-/
namespace Assay.Text

section

variable {isCut : Char → Bool} {mark : Char}

/-- Cutting a text is splitting it as a list. -/
theorem cut_eq_splitOnP (isCut : Char → Bool) (text : List Char) :
    cut isCut text = text.splitOnP isCut := by
  induction text with
  | nil => rfl
  | cons c text ih =>
    rw [cut, List.splitOnP_cons_eq_if_modifyHead, ih]
    by_cases cuts : isCut c = true
    · rw [if_pos cuts, if_pos cuts]
    · rw [if_neg cuts, if_neg cuts]
      cases shape : text.splitOnP isCut with
      | nil => exact absurd shape (List.splitOnP_ne_nil isCut text)
      | cons piece later => rfl

/-- A cut separates what is cut before it from what is cut after it. -/
theorem cut_append_cons (cuts : isCut mark = true) (front rest : List Char) :
    cut isCut (front ++ mark :: rest) = cut isCut front ++ cut isCut rest := by
  simp only [cut_eq_splitOnP]
  exact List.splitOnP_append_cons front rest cuts

/-- A text without cuts is one piece. -/
theorem cut_of_whole {text : List Char} (whole : ∀ c ∈ text, isCut c = false) :
    cut isCut text = [text] := by
  rw [cut_eq_splitOnP]
  exact List.splitOnP_eq_singleton whole

/-- A text has one piece more than it has cuts. -/
theorem length_cut (isCut : Char → Bool) (text : List Char) :
    (cut isCut text).length = text.countP isCut + 1 := by
  induction text with
  | nil => rfl
  | cons c text ih =>
    by_cases cuts : isCut c = true
    · rw [List.countP_cons_of_pos cuts, ← ih]
      exact congrArg List.length (cut_append_cons cuts [] text)
    · rw [List.countP_cons_of_neg cuts, ← ih, cut, if_neg cuts]
      cases shape : cut isCut text with
      | nil => exact absurd shape (cut_ne_nil isCut text)
      | cons piece later => rfl

/-- Texts joined by a cut have their pieces in order. -/
theorem cut_intercalate (cuts : isCut mark = true) {texts : List (List Char)}
    (some : texts ≠ []) : cut isCut ([mark].intercalate texts) = texts.flatMap (cut isCut) := by
  induction texts with
  | nil => contradiction
  | cons text texts ih =>
    cases texts with
    | nil => simp
    | cons next texts =>
      have joined : [mark].intercalate (text :: next :: texts) =
          text ++ mark :: [mark].intercalate (next :: texts) := by
        simp [List.intercalate_cons_cons]
      rw [joined, cut_append_cons cuts, ih (List.cons_ne_nil _ _)]
      rfl

/-- Joining texts brings nothing in but what is put between them. -/
theorem mem_intercalate {texts : List (List Char)} {c : Char}
    (member : c ∈ [mark].intercalate texts) : c = mark ∨ ∃ text ∈ texts, c ∈ text := by
  induction texts with
  | nil => contradiction
  | cons text texts ih =>
    cases texts with
    | nil =>
      rw [List.intercalate_singleton] at member
      exact .inr ⟨text, List.mem_cons_self .., member⟩
    | cons next texts =>
      rw [List.intercalate_cons_cons, List.append_assoc, List.mem_append, List.singleton_append,
        List.mem_cons] at member
      rcases member with first | same | later
      · exact .inr ⟨text, List.mem_cons_self .., first⟩
      · exact .inl same
      · rcases ih later with same | ⟨other, among, inside⟩
        · exact .inl same
        · exact .inr ⟨other, List.mem_cons_of_mem _ among, inside⟩

/-- Texts are as many as their pieces exactly when there is no cut in any of them. -/
theorem length_flatMap_cut_eq_iff (isCut : Char → Bool) (texts : List (List Char)) :
    (texts.flatMap (cut isCut)).length = texts.length ↔
      ∀ text ∈ texts, ∀ c ∈ text, isCut c = false := by
  have atLeast : ∀ texts : List (List Char),
      texts.length ≤ (texts.flatMap (cut isCut)).length := by
    intro texts
    induction texts with
    | nil => exact Nat.le_refl 0
    | cons text texts ih =>
      rw [List.flatMap_cons, List.length_append, length_cut, List.length_cons]
      omega
  induction texts with
  | nil => simp
  | cons text texts ih =>
    have later := atLeast texts
    have uncut : text.countP isCut = 0 ↔ ∀ c ∈ text, isCut c = false := by
      simp [List.countP_eq_zero]
    rw [List.forall_mem_cons]
    refine Iff.trans ?_ (and_congr uncut ih)
    rw [List.flatMap_cons, List.length_append, length_cut, List.length_cons]
    omega

/-! ## Stretches -/

/-- The pieces of a text between cuts, the empty ones left out. -/
def stretches (isCut : Char → Bool) (text : List Char) : List (List Char) :=
  (cut isCut text).filter (· ≠ [])

/-- The texts between blanks are stretches. -/
theorem words_eq_stretches (text : List Char) : words text = stretches isBlank text := rfl

/-- An empty text has no stretches. -/
theorem stretches_nil (isCut : Char → Bool) : stretches isCut [] = [] := rfl

/-- A text that is not empty and has no cut is one stretch. -/
theorem stretches_of_whole {text : List Char} (some : text ≠ [])
    (whole : ∀ c ∈ text, isCut c = false) : stretches isCut text = [text] := by
  rw [stretches, cut_of_whole whole, List.filter_cons_of_pos (by simpa using some), List.filter_nil]

/-- A text without a cut has no stretch but itself. -/
theorem eq_of_mem_stretches {text piece : List Char} (whole : ∀ c ∈ text, isCut c = false)
    (member : piece ∈ stretches isCut text) : piece = text ∧ text ≠ [] := by
  by_cases some : text = []
  · rw [some, stretches_nil] at member
    contradiction
  · rw [stretches_of_whole some whole, List.mem_singleton] at member
    exact ⟨member, some⟩

/-- A text that a cut divides has the stretches of both sides. -/
theorem stretches_append_cons (cuts : isCut mark = true) (front rest : List Char) :
    stretches isCut (front ++ mark :: rest) = stretches isCut front ++ stretches isCut rest := by
  rw [stretches, cut_append_cons cuts, List.filter_append]
  rfl

/-- A cut in front of a text adds no stretch. -/
theorem stretches_cons (cuts : isCut mark = true) (text : List Char) :
    stretches isCut (mark :: text) = stretches isCut text :=
  stretches_append_cons cuts [] text

/-- A text is followed from cut to cut: it has none, or it goes on behind the first. -/
@[elab_as_elim]
theorem piecewise {motive : List Char → Prop} (isCut : Char → Bool) (text : List Char)
    (last : ∀ piece, (∀ c ∈ piece, isCut c = false) → motive piece)
    (step : ∀ piece mark rest, (∀ c ∈ piece, isCut c = false) → isCut mark = true →
      motive rest → motive (piece ++ mark :: rest)) : motive text := by
  -- What has been passed since the last cut is carried along.
  have carried : ∀ passed, (∀ c ∈ passed, isCut c = false) → motive (passed ++ text) := by
    induction text with
    | nil =>
      intro passed whole
      rw [List.append_nil]
      exact last passed whole
    | cons c text ih =>
      intro passed whole
      by_cases cuts : isCut c = true
      · exact step passed c text whole cuts (ih [] (by simp))
      · have longer : ∀ d ∈ passed ++ [c], isCut d = false := by
          simpa [or_imp, forall_and, cuts] using whole
        simpa using ih (passed ++ [c]) longer
  exact carried [] (by simp)

/-- A stretch is not empty, has no cut and is made of characters of the text. -/
theorem mem_stretches {text piece : List Char} (member : piece ∈ stretches isCut text) :
    piece ≠ [] ∧ ∀ c ∈ piece, isCut c = false ∧ c ∈ text := by
  induction text using piecewise isCut with
  | last text whole =>
    obtain ⟨rfl, some⟩ := eq_of_mem_stretches whole member
    exact ⟨some, fun c inside => ⟨whole c inside, inside⟩⟩
  | step front mark rest whole cuts ih =>
    rw [stretches_append_cons cuts, List.mem_append] at member
    rcases member with first | later
    · obtain ⟨rfl, some⟩ := eq_of_mem_stretches whole first
      exact ⟨some, fun c inside => ⟨whole c inside, List.mem_append_left _ inside⟩⟩
    · obtain ⟨some, free⟩ := ih later
      refine ⟨some, fun c inside => ⟨(free c inside).1, ?_⟩⟩
      exact List.mem_append_right _ (List.mem_cons_of_mem _ (free c inside).2)

/-- Texts joined by a cut have their stretches in order. -/
theorem stretches_intercalate (cuts : isCut mark = true) (texts : List (List Char)) :
    stretches isCut ([mark].intercalate texts) = texts.flatMap (stretches isCut) := by
  cases texts with
  | nil => rfl
  | cons text texts =>
    rw [stretches, cut_intercalate cuts (List.cons_ne_nil _ _), List.filter_flatMap]
    rfl

/-- Cutting the stretches along a larger class gives what that class gives of the text. -/
theorem flatMap_stretches {isFiner : Char → Bool} (finer : ∀ c, isCut c = true → isFiner c = true)
    (text : List Char) :
    (stretches isCut text).flatMap (stretches isFiner) = stretches isFiner text := by
  have ofWhole : ∀ text : List Char, (∀ c ∈ text, isCut c = false) →
      (stretches isCut text).flatMap (stretches isFiner) = stretches isFiner text := by
    intro text whole
    by_cases some : text = []
    · rw [some]
      rfl
    · rw [stretches_of_whole some whole, List.flatMap_singleton]
  induction text using piecewise isCut with
  | last text whole => exact ofWhole text whole
  | step front mark rest whole cuts ih =>
    rw [stretches_append_cons cuts, List.flatMap_append, ih, ofWhole front whole,
      stretches_append_cons (finer mark cuts)]

/-- Joining the stretches of a text keeps its stretches along a larger class. -/
theorem stretches_intercalate_stretches {isFiner : Char → Bool}
    (finer : ∀ c, isCut c = true → isFiner c = true) (cuts : isFiner mark = true)
    (text : List Char) :
    stretches isFiner ([mark].intercalate (stretches isCut text)) = stretches isFiner text := by
  rw [stretches_intercalate cuts, flatMap_stretches finer]

end

/-! ## The first occurrence -/

/-- A text is cut first where a character is that does not stand before. -/
theorem cutFirst_append_cons {mark : Char} {front : List Char} (before : mark ∉ front)
    (back : List Char) : cutFirst mark (front ++ mark :: back) = some (front, back) := by
  induction front with
  | nil => exact if_pos rfl
  | cons c front ih =>
    obtain ⟨first, later⟩ := not_or.mp (mt List.mem_cons.mpr before)
    rw [List.cons_append, cutFirst, if_neg (Ne.symm first), ih later]
    rfl

/-! ## Blanks at the ends -/

section

variable {c : Char} {text : List Char}

/-- Blanks at the front end at the latest where there is no blank. -/
theorem dropWhile_append_solid (solid : isBlank c = false) (front back : List Char) :
    (front ++ c :: back).dropWhile isBlank = front.dropWhile isBlank ++ c :: back := by
  have stops : (c :: back).dropWhile isBlank = c :: back :=
    List.dropWhile_cons_of_neg (Bool.eq_false_iff.mp solid)
  rw [List.dropWhile_append, stops]
  split
  · next none => rw [List.isEmpty_iff.mp none, List.nil_append]
  · rfl

/-- Blanks at the back start at the earliest after what is no blank. -/
theorem rdropWhile_append_solid (solid : isBlank c = false) (front back : List Char) :
    (front ++ c :: back).rdropWhile isBlank = front ++ c :: back.rdropWhile isBlank := by
  have turned : (front ++ c :: back).reverse = back.reverse ++ c :: front.reverse := by simp
  rw [List.rdropWhile, turned, dropWhile_append_solid solid]
  simp [List.rdropWhile]

/-- A text is trimmed on each side of what is no blank. -/
theorem trim_append_solid (solid : isBlank c = false) (front back : List Char) :
    trim (front ++ c :: back) = front.dropWhile isBlank ++ c :: back.rdropWhile isBlank := by
  have whole : trim (front ++ c :: back) =
      ((front ++ c :: back).dropWhile isBlank).rdropWhile isBlank := rfl
  rw [whole, dropWhile_append_solid solid, rdropWhile_append_solid solid]

/-- A text that starts with no blank goes on with blanks after it is trimmed. -/
theorem exists_eq_trim_append (solid : isBlank c = false) (back : List Char) :
    ∃ blanks, c :: back = trim (c :: back) ++ blanks := by
  have trimmed : trim (c :: back) = c :: back.rdropWhile isBlank := trim_append_solid solid [] back
  refine ⟨back.rtakeWhile isBlank, ?_⟩
  rw [trimmed, List.cons_append, List.rdropWhile_append_rtakeWhile]

/-- A text is trimmed exactly when it has no blank at its front and none at its back. -/
theorem trim_eq_self_iff :
    trim text = text ↔ text.dropWhile isBlank = text ∧ text.rdropWhile isBlank = text := by
  have whole : trim text = (text.dropWhile isBlank).rdropWhile isBlank := rfl
  constructor
  · intro trimmed
    have front : text.dropWhile isBlank = text := by
      refine (List.dropWhile_sublist _).antisymm ?_
      have shorter := (List.rdropWhile_prefix isBlank (text.dropWhile isBlank)).sublist
      rwa [← whole, trimmed] at shorter
    rw [whole, front] at trimmed
    exact ⟨front, trimmed⟩
  · rintro ⟨front, back⟩
    rw [whole, front, back]

/-- Blanks at the back of a text make no difference once it is trimmed. -/
theorem trim_rdropWhile (text : List Char) : trim (text.rdropWhile isBlank) = trim text := by
  by_cases blank : ∀ c ∈ text, isBlank c = true
  · rw [List.rdropWhile_eq_nil_iff.mpr blank, trim, trim, List.dropWhile_eq_nil_iff.mpr blank]
    rfl
  · simp only [not_forall, Bool.not_eq_true] at blank
    obtain ⟨c, member, solid⟩ := blank
    obtain ⟨front, back, rfl⟩ := List.append_of_mem member
    rw [rdropWhile_append_solid solid, trim_append_solid solid, trim_append_solid solid,
      List.rdropWhile_idempotent]

end

end Assay.Text
