import Assay.Proofs.NormalForm

/-!
# Punctuation in texts that are compared

A text is lowered before its ASCII punctuation is taken out, and lowering looks at what stands
around one letter: a capital sigma has a lower-case form of its own at the end of a word. Nothing
else that is left of a text depends on its punctuation, since a mark stays itself when it is lowered
and no letter is lowered to a mark. So of two texts that are the same without their marks, the
normal forms are the same exactly when their capital sigmas end words alike (`normal_bare_iff`).
A mark that ends a word in front of a letter makes a difference.
-/
namespace Assay.Text

/-- A text without its ASCII punctuation. -/
def bare (text : List Char) : List Char :=
  text.filter fun c => !isPunctuation c

/-- For each capital sigma of the rest of a text whether it ends a word, given what stands before
the rest, nearest first. -/
def sigmaEndsFrom (before : List Char) : List Char → List Bool
  | [] => []
  | c :: text =>
    (if c = 'Σ' then [meetsCased before && !meetsCased text] else []) ++
      sigmaEndsFrom (c :: before) text

/-- For each capital sigma of a text, in order, whether it ends a word: a cased letter stands before
it and none after it, characters apart that the rule looks past. -/
def sigmaEnds (text : List Char) : List Bool :=
  sigmaEndsFrom [] text

/-! ## Marks in lower case -/

/-- The ASCII punctuation, as runs of characters. -/
def punctuationRuns : List CaseRun :=
  [⟨33, 47, 1, 0⟩, ⟨58, 64, 1, 0⟩, ⟨91, 96, 1, 0⟩, ⟨123, 126, 1, 0⟩]

/-- A mark lies on one of these runs. -/
theorem exists_covers_of_isPunctuation {c : Char} (mark : isPunctuation c = true) :
    ∃ run ∈ punctuationRuns, run.covers c.toNat = true := by
  simp only [isPunctuation, Bool.or_eq_true, Bool.and_eq_true, decide_eq_true_eq] at mark
  simp only [punctuationRuns, List.mem_cons, List.not_mem_nil, or_false, exists_eq_or_imp,
    exists_eq_left, CaseRun.covers, Bool.and_eq_true, decide_eq_true_eq, beq_iff_eq, Nat.mod_one,
    and_true]
  omega

/-- No run of the table moves a character to a mark. -/
theorem caseRuns_clear_punctuation : (caseRuns.all fun run =>
    decide (0 ≤ run.first + run.shift) && punctuationRuns.all run.clears) = true := by
  decide +kernel

/-- What a run moves a character to is no mark. -/
theorem isPunctuation_of_covers {run : CaseRun} (member : run ∈ caseRuns) {n : Nat}
    (covered : run.covers n = true) :
    isPunctuation (Char.ofNat (n + run.shift).toNat) = false := by
  have clear := List.all_eq_true.1 caseRuns_clear_punctuation run member
  rw [Bool.and_eq_true, decide_eq_true_eq, List.all_eq_true] at clear
  obtain ⟨reaches, clears⟩ := clear
  by_cases valid : (n + run.shift).toNat.isValidChar
  · have code : (Char.ofNat (n + run.shift).toNat).toNat = (n + run.shift).toNat := by
      rw [Char.ofNat, dif_pos valid]
      rfl
    rw [Bool.eq_false_iff]
    intro mark
    obtain ⟨other, among, covers⟩ := exists_covers_of_isPunctuation mark
    have apart := CaseRun.not_covers_of_clears reaches (clears other among) covered
    rw [code, apart] at covers
    contradiction
  · rw [Char.ofNat, dif_neg valid]
    rfl

/-- A mark is its own lower-case form. -/
theorem lowerChar_of_isPunctuation {c : Char} (mark : isPunctuation c = true) :
    c ≠ 'Σ' ∧ lowerChar c = [c] := by
  have all : ∀ n < 127, isPunctuation (Char.ofNat n) = true →
      Char.ofNat n ≠ 'Σ' ∧ lowerChar (Char.ofNat n) = [Char.ofNat n] := by
    decide +kernel
  have ascii : c.toNat < 127 := by
    simp only [isPunctuation, Bool.or_eq_true, Bool.and_eq_true, decide_eq_true_eq] at mark
    omega
  have own := all c.toNat ascii
  rw [Char.ofNat_toNat] at own
  exact own mark

/-- A character that is no mark is not lowered to one. -/
theorem isPunctuation_of_mem_lowerChar {c d : Char} (plain : isPunctuation c = false)
    (member : d ∈ lowerChar c) : isPunctuation d = false := by
  rcases lowerChar_cases c with own | ⟨capital, form⟩ | forms | ⟨run, among, covered, form⟩
  · rw [own, List.mem_singleton] at member
    rw [member]
    exact plain
  · have all : ∀ n < 91, 65 ≤ n → isPunctuation (Char.ofNat (n + 32)) = false := by
      decide +kernel
    rw [form, List.mem_singleton] at member
    rw [member]
    exact all c.toNat (by omega) capital.1
  · have both : ['i', Char.ofNat 0x307].all (!isPunctuation ·) = true := by decide
    rw [forms] at member
    simpa using List.all_eq_true.1 both d member
  · rw [form, List.mem_singleton] at member
    rw [member]
    exact isPunctuation_of_covers among covered

/-! ## Lowering with given forms -/

/-- The lower-case form of a text of whose capital sigmas it is given, in order, which end words. -/
def lowerWith : (ends : List Bool) → List Char → List Char
  | _, [] => []
  | ends, c :: text =>
    if c = 'Σ' then (if ends.headD false then 'ς' else 'σ') :: lowerWith ends.tail text
    else lowerChar c ++ lowerWith ends text

/-- A text is lowered with the forms that its capital sigmas have where they stand. -/
theorem lowerFrom_eq (before text : List Char) :
    lowerFrom before text = lowerWith (sigmaEndsFrom before text) text := by
  induction text generalizing before with
  | nil => rfl
  | cons c text ih =>
    rw [lowerFrom, sigmaEndsFrom, lowerWith, ih]
    by_cases sigma : c = 'Σ'
    · simp only [if_pos sigma]
      rfl
    · simp only [if_neg sigma]
      rfl

/-- Each capital sigma of a text ends a word or does not. -/
theorem length_sigmaEndsFrom (before text : List Char) :
    (sigmaEndsFrom before text).length = text.count 'Σ' := by
  induction text generalizing before with
  | nil => rfl
  | cons c text ih =>
    rw [sigmaEndsFrom, List.length_append, ih, List.count_cons]
    by_cases sigma : c = 'Σ'
    · simp [sigma, Nat.add_comm]
    · simp [sigma]

/-- Marks are taken out of a text before or after it is lowered with given forms. -/
theorem bare_lowerWith (ends : List Bool) (text : List Char) :
    bare (lowerWith ends text) = lowerWith ends (bare text) := by
  induction text generalizing ends with
  | nil => rfl
  | cons c text ih =>
    rw [lowerWith]
    by_cases sigma : c = 'Σ'
    · subst sigma
      have stays : bare ('Σ' :: text) = 'Σ' :: bare text := List.filter_cons_of_pos (by decide)
      have form (final : Bool) : isPunctuation (if final then 'ς' else 'σ') = false := by
        cases final <;> decide
      rw [if_pos rfl, stays, lowerWith, if_pos rfl, ← ih]
      exact List.filter_cons_of_pos (by rw [form]; rfl)
    · rw [if_neg sigma]
      cases mark : isPunctuation c with
      | true =>
        have own := (lowerChar_of_isPunctuation mark).2
        have goes : bare (c :: text) = bare text := List.filter_cons_of_neg (by simp [mark])
        rw [own, goes, ← ih]
        exact List.filter_cons_of_neg (by simp [mark])
      | false =>
        have stays : bare (c :: text) = c :: bare text := List.filter_cons_of_pos (by simp [mark])
        have whole : bare (lowerChar c) = lowerChar c := List.filter_eq_self.2 fun d member => by
          simp [isPunctuation_of_mem_lowerChar mark member]
        rw [stays, lowerWith, if_neg sigma, ← ih, bare, List.filter_append]
        exact congrArg (· ++ _) whole

/-- A text that is lowered and without its marks is the text without its marks, lowered with the
forms that its capital sigmas have among the marks. -/
theorem bare_lower (text : List Char) :
    bare (lower text) = lowerWith (sigmaEnds text) (bare text) := by
  rw [lower, lowerFrom_eq, bare_lowerWith]
  rfl

/-! ## What tells the forms apart -/

/-- A small sigma in one of its two forms. -/
def isSmallSigma (c : Char) : Bool :=
  c = 'σ' || c = 'ς'

/-- The small sigmas of a text that is lowered with given forms tell what the forms are. -/
theorem eq_of_filter_lowerWith {ends others : List Bool} {text : List Char}
    (long : ends.length = text.count 'Σ') (othersLong : others.length = text.count 'Σ')
    (same : (lowerWith ends text).filter isSmallSigma =
      (lowerWith others text).filter isSmallSigma) : ends = others := by
  induction text generalizing ends others with
  | nil =>
    rw [List.length_eq_zero_iff.1 long, List.length_eq_zero_iff.1 othersLong]
  | cons c text ih =>
    by_cases sigma : c = 'Σ'
    · subst sigma
      rw [List.count_cons_self] at long othersLong
      obtain ⟨final, ends, rfl⟩ := List.exists_cons_of_length_eq_add_one long
      obtain ⟨other, others, rfl⟩ := List.exists_cons_of_length_eq_add_one othersLong
      have small (final : Bool) : isSmallSigma (if final then 'ς' else 'σ') = true := by
        cases final <;> decide
      have forms : ∀ final other : Bool,
          (if final then 'ς' else 'σ') = (if other then 'ς' else 'σ') → final = other := by decide
      rw [lowerWith, lowerWith, if_pos rfl, if_pos rfl, List.headD_cons, List.headD_cons,
        List.filter_cons_of_pos (small final), List.filter_cons_of_pos (small other)] at same
      obtain ⟨first, later⟩ := List.cons.inj same
      have rest : ends = others := ih (by simpa using long) (by simpa using othersLong) later
      rw [forms final other first, rest]
    · rw [List.count_cons_of_ne sigma] at long othersLong
      rw [lowerWith, lowerWith, if_neg sigma, if_neg sigma, List.filter_append,
        List.filter_append] at same
      exact ih long othersLong (List.append_cancel_left same)

section

variable {isOf : Char → Bool}

/-- Joining texts adds nothing to a class that what is put between them is not of. -/
theorem filter_intercalate {mark : Char} (apart : isOf mark = false) (texts : List (List Char)) :
    ([mark].intercalate texts).filter isOf = texts.flatMap (List.filter isOf) := by
  induction texts with
  | nil => rfl
  | cons text texts ih =>
    cases texts with
    | nil => simp
    | cons next texts =>
      have between : [mark].filter isOf = [] := List.filter_cons_of_neg (by simp [apart])
      rw [List.intercalate_cons_cons, List.filter_append, List.filter_append, between, ih,
        List.append_nil]
      rfl

/-- The stretches of a text hold all of it that is of a class without cuts. -/
theorem flatMap_filter_stretches {isCut : Char → Bool}
    (uncut : ∀ c, isCut c = true → isOf c = false) (text : List Char) :
    (stretches isCut text).flatMap (List.filter isOf) = text.filter isOf := by
  have ofWhole : ∀ piece : List Char, (∀ c ∈ piece, isCut c = false) →
      (stretches isCut piece).flatMap (List.filter isOf) = piece.filter isOf := by
    intro piece whole
    by_cases some : piece = []
    · rw [some]
      rfl
    · rw [stretches_of_whole some whole, List.flatMap_singleton]
  induction text using piecewise isCut with
  | last piece whole => exact ofWhole piece whole
  | step piece mark rest whole cuts ih =>
    rw [stretches_append_cons cuts, List.flatMap_append, ofWhole piece whole, ih,
      List.filter_append, List.filter_cons_of_neg (by simp [uncut mark cuts])]

/-- Dropping articles leaves all of a text that is of a class without blanks and letters of
articles. -/
theorem filter_dropArticles (noBlank : isOf ' ' = false)
    (noLetter : ∀ c ∈ ['a', 'n', 't', 'h', 'e'], isOf c = false) (text : List Char) :
    (dropArticles text).filter isOf = text.filter isOf := by
  have keeps : ∀ run : List Char,
      (if isArticle run then [' '] else run).filter isOf = run.filter isOf := by
    intro run
    by_cases article : isArticle run = true
    · rw [if_pos article]
      simp only [isArticle, Bool.or_eq_true, decide_eq_true_eq] at article
      rcases article with (rfl | rfl) | rfl <;> simp [noBlank, noLetter]
    · rw [if_neg article]
  rw [dropArticles, List.filter_flatMap]
  simp only [keeps]
  rw [← List.filter_flatMap, List.flatMap_id', flatten_runs]

end

/-- A normal form has the small sigmas of the text in lower case. -/
theorem filter_normal (text : List Char) :
    (normal text).filter isSmallSigma = (bare (lower text)).filter isSmallSigma := by
  have noBlank : ∀ c, isBlank c = true → isSmallSigma c = false := fun c blank => by
    have all : (blanks.all fun c => !isSmallSigma c) = true := by decide +kernel
    simpa using of_isBlank all blank
  rw [normal, filter_intercalate (by decide), words_eq_stretches, flatMap_filter_stretches noBlank,
    filter_dropArticles (by decide) (by simp [isSmallSigma])]
  rfl

/-! ## Normal forms -/

/-- Taking out marks a second time changes nothing. -/
theorem bare_bare (text : List Char) : bare (bare text) = bare text :=
  List.filter_eq_self.2 fun _ member => (List.mem_filter.1 member).2

/-- A text has a form for each capital sigma of what is left of it without its marks. -/
theorem length_sigmaEnds (text : List Char) :
    (sigmaEnds text).length = (bare text).count 'Σ' := by
  rw [sigmaEnds, length_sigmaEndsFrom, bare, List.count_filter (by decide)]

/-- Texts that are the same without their marks have the same normal form exactly when their
capital sigmas end words alike. -/
theorem normal_eq_normal_iff {text other : List Char} (same : bare text = bare other) :
    normal text = normal other ↔ sigmaEnds text = sigmaEnds other := by
  constructor
  · intro forms
    have small := congrArg (List.filter isSmallSigma) forms
    rw [filter_normal, filter_normal, bare_lower, bare_lower, ← same] at small
    exact eq_of_filter_lowerWith (length_sigmaEnds text) (same ▸ length_sigmaEnds other) small
  · intro ends
    have lowered : bare (lower text) = bare (lower other) := by
      rw [bare_lower, bare_lower, same, ends]
    exact congrArg (fun plain => [' '].intercalate (words (dropArticles plain))) lowered

/-- Without its marks a text has the same normal form exactly when its capital sigmas end words
without them as they do among them, so always when it has no capital sigma. Texts that differ in
their marks only have the same normal form exactly when the capital sigmas of both end words
alike. -/
theorem normal_bare_iff (text : List Char) :
    (normal (bare text) = normal text ↔ sigmaEnds (bare text) = sigmaEnds text) ∧
      ('Σ' ∉ text → normal (bare text) = normal text) ∧
      ∀ other, bare text = bare other →
        (normal text = normal other ↔ sigmaEnds text = sigmaEnds other) := by
  have alone := normal_eq_normal_iff (bare_bare text)
  refine ⟨alone, fun none => alone.2 ?_, fun other same => normal_eq_normal_iff same⟩
  have few : (bare text).count 'Σ' = 0 := List.count_eq_zero.2 fun member =>
    none (List.mem_of_mem_filter member)
  have ends : sigmaEnds text = [] := List.length_eq_zero_iff.1 (by rw [length_sigmaEnds, few])
  have bareEnds : sigmaEnds (bare text) = [] :=
    List.length_eq_zero_iff.1 (by rw [length_sigmaEnds, bare_bare, few])
  rw [ends, bareEnds]

/-- An apostrophe in a text without capital sigma makes no difference. Full stops and apostrophes
are looked past, so they make none to the sigmas beside them either. -/
theorem normal_bare_iff_initials :
    normal (bare "O'Neil!".toList) = normal "O'Neil!".toList ∧
      bare "Σ.Α.Σ. ΟΔΥΣ'ΣΕΥΣ".toList = bare "ΣΑΣ ΟΔΥΣΣΕΥΣ".toList ∧
      normal "Σ.Α.Σ. ΟΔΥΣ'ΣΕΥΣ".toList = normal "ΣΑΣ ΟΔΥΣΣΕΥΣ".toList := by
  have none : 'Σ' ∉ "O'Neil!".toList := by decide
  have same : bare "Σ.Α.Σ. ΟΔΥΣ'ΣΕΥΣ".toList = bare "ΣΑΣ ΟΔΥΣΣΕΥΣ".toList := by decide +kernel
  have ends : sigmaEnds "Σ.Α.Σ. ΟΔΥΣ'ΣΕΥΣ".toList = sigmaEnds "ΣΑΣ ΟΔΥΣΣΕΥΣ".toList := by
    decide +kernel
  exact ⟨(normal_bare_iff "O'Neil!".toList).2.1 none, same,
    ((normal_bare_iff "Σ.Α.Σ. ΟΔΥΣ'ΣΕΥΣ".toList).2.2 _ same).2 ends⟩

/-- A hyphen ends a word, so a sigma in front of it has the form of a sigma at the end, which it
has not where the hyphen is missing. -/
theorem normal_heeds_hyphen : ¬∀ text, normal (bare text) = normal text := by
  intro same
  have hyphenated := same "ΑΣ-Α".toList
  revert hyphenated
  decide +kernel

end Assay.Text
