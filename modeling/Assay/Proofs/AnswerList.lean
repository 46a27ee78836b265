import Assay.Proofs.Credit
import Assay.Proofs.NormalForm
import Mathlib.Data.List.Perm.Subperm

/-!
# Which answers match their references

In order, an answer matches when its items are the references. In any order it matches when there
are as many items as references and each reference is among the items. That is the same as being a
rearrangement of the references as long as these are distinct in normal form, and only then: with
a reference that occurs twice, one of its two items may be anything (`score_decides`).
The references themselves, written one after the other with commas, are an answer that matches,
unless there are none or a comma in one of them makes two items of it (`score_joined`).
-/
namespace Assay.AnswerList

open Text

variable {answer : String} {target : List String} {anyOrder : Bool}

/-- There are as many references as before they were brought into normal form. -/
theorem length_references (target : List String) :
    (references target).length = target.length :=
  List.length_map ..

/-- An answer that matches has as many items as there are references. -/
theorem Matches.length_eq (fits : Matches answer target anyOrder) :
    (items answer).length = (references target).length := by
  cases anyOrder with
  | true => exact fits.1
  | false => exact congrArg List.length fits

/-- An answer whose items are the references matches, whether or not the order counts. -/
theorem matches_of_eq (same : items answer = references target) (anyOrder : Bool) :
    Matches answer target anyOrder := by
  cases anyOrder with
  | true => exact ⟨congrArg List.length same, fun reference member => by rwa [same]⟩
  | false => exact same

/-! ## Rearranged references -/

/-- No comma is left in a text in normal form. -/
theorem comma_notMem_of_isNormal {text : List Char} (isNormal : IsNormal text) : ',' ∉ text := by
  intro member
  have plain := isNormal.unpunctuated ',' member
  contradiction

/-- The references are in normal form. -/
theorem isNormal_of_mem_references (target : List String) :
    ∀ text ∈ references target, IsNormal text := by
  intro text member
  obtain ⟨reference, -, rfl⟩ := List.mem_map.1 member
  exact isNormal_normal reference.toList

/-- Texts in normal form are the items of an answer, if there are any. -/
theorem exists_items_eq {texts : List (List Char)} (some : texts ≠ [])
    (normalized : ∀ text ∈ texts, IsNormal text) : ∃ answer, items answer = texts := by
  refine ⟨String.ofList ([','].intercalate texts), ?_⟩
  have alone : ∀ text ∈ texts, cut (· = ',') text = [text] := by
    intro text member
    refine cut_of_whole fun c inside => ?_
    have other : c ≠ ',' := by
      rintro rfl
      exact comma_notMem_of_isNormal (normalized text member) inside
    simpa using other
  have own : ∀ text ∈ texts, normal text = text := fun text member =>
    (normalized text member).normal_eq
  rw [items, String.toList_ofList, cut_intercalate (by simp) some, List.flatMap_congr alone,
    List.flatMap_singleton', List.map_congr_left own, List.map_id']

/-- An answer with as many items as there are distinct references, and all of these among them,
rearranges the references. -/
theorem perm_of_matches (distinct : (references target).Nodup)
    (fits : Matches answer target true) : (items answer).Perm (references target) := by
  obtain ⟨same, among⟩ := fits
  have within := List.subperm_of_subset distinct among
  exact (within.perm_of_length_le same.le).symm

/-- An answer that rearranges the references matches in any order. -/
theorem matches_of_perm (rearranged : (items answer).Perm (references target)) :
    Matches answer target true :=
  ⟨rearranged.length_eq, fun _ member => rearranged.mem_iff.2 member⟩

/-- In a list with repeats some member occurs again behind itself. -/
theorem exists_again_of_not_nodup {texts : List (List Char)} (repeats : ¬texts.Nodup) :
    ∃ before twice after, texts = before ++ twice :: after ∧ twice ∈ after := by
  induction texts with
  | nil => exact absurd List.nodup_nil repeats
  | cons text texts ih =>
    by_cases again : text ∈ texts
    · exact ⟨[], text, texts, rfl, again⟩
    · obtain ⟨before, twice, after, rfl, behind⟩ := ih fun distinct =>
        repeats (List.nodup_cons.2 ⟨again, distinct⟩)
      exact ⟨text :: before, twice, after, rfl, behind⟩

/-- Where a reference occurs twice, an answer matches that does not rearrange the references: the
one that has another item in the first of the two places. -/
theorem exists_matches_of_not_nodup (repeats : ¬(references target).Nodup) :
    ∃ answer, Matches answer target true ∧ ¬(items answer).Perm (references target) := by
  obtain ⟨before, twice, after, split, behind⟩ := exists_again_of_not_nodup repeats
  obtain ⟨other, isNormal, different⟩ : ∃ other, IsNormal other ∧ other ≠ twice := by
    have b : IsNormal ['b'] := normal_eq_self_iff.1 (by decide +kernel)
    have c : IsNormal ['c'] := normal_eq_self_iff.1 (by decide +kernel)
    by_cases same : twice = ['b']
    · exact ⟨['c'], c, by simp [same]⟩
    · exact ⟨['b'], b, Ne.symm same⟩
  have normalized : ∀ text ∈ before ++ other :: after, IsNormal text := by
    intro text member
    rw [List.mem_append, List.mem_cons] at member
    rcases member with first | rfl | last
    · exact isNormal_of_mem_references target text (by simp [split, first])
    · exact isNormal
    · exact isNormal_of_mem_references target text (by simp [split, last])
  obtain ⟨answer, found⟩ := exists_items_eq (by simp) normalized
  refine ⟨answer, ⟨by simp [found, split], fun reference member => ?_⟩, fun rearranged => ?_⟩
  · rw [split, List.mem_append, List.mem_cons] at member
    rw [found, List.mem_append, List.mem_cons]
    rcases member with first | rfl | last
    · exact .inl first
    · exact .inr (.inr behind)
    · exact .inr (.inr last)
  · rw [found, split, List.perm_append_left_iff] at rearranged
    have alone : [other].Perm [twice] := (List.perm_append_right_iff after).1 rearranged
    exact different (List.singleton_perm_singleton.1 alone)

/-- Scoring compares the items of an answer with the references. In order they have to be equal.
In any order there have to be as many, and each reference has to be among the items: this is a
comparison up to rearrangement, for every answer, exactly when no two references are equal. -/
theorem score_decides (target : List String) :
    (∀ answer, (score answer target false).verdict = .correct ↔
      items answer = references target) ∧
    (∀ answer, (score answer target true).verdict = .correct ↔
      (items answer).length = (references target).length ∧
        ∀ reference ∈ references target, reference ∈ items answer) ∧
    ((∀ answer, (score answer target true).verdict = .correct ↔
      (items answer).Perm (references target)) ↔ (references target).Nodup) := by
  refine ⟨fun answer => score_verdict_eq_correct_iff answer target false,
    fun answer => score_verdict_eq_correct_iff answer target true, ?_⟩
  simp only [score_verdict_eq_correct_iff]
  constructor
  · intro agrees
    by_contra repeats
    obtain ⟨answer, fits, notRearranged⟩ := exists_matches_of_not_nodup repeats
    exact notRearranged ((agrees answer).1 fits)
  · exact fun distinct answer => ⟨perm_of_matches distinct, matches_of_perm⟩

/-- With a reference that occurs twice, an answer is correct that has it only once. -/
theorem score_overlooks_item :
    ¬((score "Scott, Smith" ["Scott", "Scott"] true).verdict = .correct ↔
      (items "Scott, Smith").Perm (references ["Scott", "Scott"])) := by
  decide +kernel

/-! ## The references as an answer -/

/-- Texts joined by a comma and a space are joined by commas, a space before each but the first. -/
theorem intercalate_comma_space (first : List Char) (more : List (List Char)) :
    [',', ' '].intercalate (first :: more) = [','].intercalate (first :: more.map (' ' :: ·)) := by
  induction more generalizing first with
  | nil => rfl
  | cons next more ih =>
    rw [List.map_cons, List.intercalate_cons_cons, List.intercalate_cons_cons,
      List.intercalate_cons_cons_left, ih next]
    simp

/-- The references as they stand between the commas that join them: with a space before each but
the first. -/
def written (target : List String) : List (List Char) :=
  match target with
  | [] => []
  | first :: more => first.toList :: more.map fun reference => ' ' :: reference.toList

/-- Between commas there are as many texts as references. -/
theorem length_written (target : List String) : (written target).length = target.length := by
  cases target <;> simp [written]

/-- What stands between the commas that join references has no comma exactly when these have
none. -/
theorem comma_free_written_iff (target : List String) :
    (∀ text ∈ written target, ∀ c ∈ text, decide (c = ',') = false) ↔
      ∀ reference ∈ target, ',' ∉ reference.toList := by
  have free : ∀ text : List Char, (∀ c ∈ text, decide (c = ',') = false) ↔ ',' ∉ text := by
    intro text
    simp only [decide_eq_false_iff_not]
    exact ⟨fun none inside => none ',' inside rfl, fun none c inside same => none (same ▸ inside)⟩
  simp only [free]
  cases target with
  | nil => simp [written]
  | cons first more => simp [written]

/-- The items of the references written one after the other. -/
theorem items_join (some : target ≠ []) :
    items (", ".intercalate target) =
      ((written target).flatMap (cut (· = ','))).map normal := by
  cases target with
  | nil => contradiction
  | cons first more =>
    have spelled : (", ".intercalate (first :: more)).toList =
        [','].intercalate (written (first :: more)) := by
      rw [String.toList_intercalate, List.map_cons]
      exact (intercalate_comma_space _ _).trans (by simp [written, Function.comp_def])
    rw [items, spelled, cut_intercalate (by simp) (by simp [written])]

/-- There are as many items as references exactly when no reference has a comma. -/
theorem length_items_join_eq_iff (some : target ≠ []) :
    (items (", ".intercalate target)).length = (references target).length ↔
      ∀ reference ∈ target, ',' ∉ reference.toList := by
  rw [items_join some, List.length_map, length_references, ← length_written target,
    length_flatMap_cut_eq_iff, comma_free_written_iff]

/-- References without commas are the items that they are cut into: the space in front of an item
has no part in its normal form. -/
theorem items_join_eq (some : target ≠ [])
    (whole : ∀ reference ∈ target, ',' ∉ reference.toList) :
    items (", ".intercalate target) = references target := by
  have alone : ∀ text ∈ written target, cut (· = ',') text = [text] := fun text member =>
    cut_of_whole ((comma_free_written_iff target).2 whole text member)
  rw [items_join some, List.flatMap_congr alone, List.flatMap_singleton']
  cases target with
  | nil => contradiction
  | cons first more =>
    have behindSpace : ∀ reference : String,
        normal (' ' :: reference.toList) = normal reference.toList := fun reference =>
      normal_cons_of_isBlank rfl reference.toList
    simp [written, references, behindSpace]

/-- References written one after the other with commas are a correct answer to themselves exactly
when there are some and none of them has a comma. To no references no answer is correct. -/
theorem score_joined (target : List String) (anyOrder : Bool) :
    ((score (", ".intercalate target) target anyOrder).verdict = .correct ↔
      target ≠ [] ∧ ∀ reference ∈ target, ',' ∉ reference.toList) ∧
    ∀ answer, (score answer [] anyOrder).verdict = .incorrect := by
  have never : ∀ answer, (score answer [] anyOrder).verdict ≠ .correct := by
    intro answer correct
    have fits := (score_verdict_eq_correct_iff answer [] anyOrder).1 correct
    have count := fits.length_eq
    rw [items, List.length_map, length_cut] at count
    exact Nat.succ_ne_zero _ count
  constructor
  · by_cases some : target = []
    · subst some
      simp [never]
    · rw [score_verdict_eq_correct_iff, ← length_items_join_eq_iff some]
      constructor
      · exact fun fits => ⟨some, fits.length_eq⟩
      · rintro ⟨-, count⟩
        have whole := (length_items_join_eq_iff some).1 count
        exact matches_of_eq (items_join_eq some whole) anyOrder
  · intro answer
    cases verdict : (score answer [] anyOrder).verdict with
    | correct => exact absurd verdict (never answer)
    | incorrect => rfl

end Assay.AnswerList
