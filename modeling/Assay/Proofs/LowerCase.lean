import Assay.Text.Blank
import Assay.Text.Case

/-!
# Lower case, once and for all

A text in lower case stays as it is when it is lowered again. For single characters this is a fact
about the table of lower-case forms: no run reaches into another one or into itself. Runs are
compared by their ends and, where they overlap, by their steps, so the table is checked pair by
pair and not character by character. A blank in front of a text has no part in lowering it: what
decides the form of a sigma looks only for letters.
-/
namespace Assay.Text

/-! ## The table -/

/-- No lower-case form from a run lies on another run: the forms end before it or start behind
it, or the steps of both agree and pass each other by. -/
def CaseRun.clears (run other : CaseRun) : Bool :=
  let first := (run.first + run.shift).toNat
  let last := (run.last + run.shift).toNat
  last.blt other.first || other.last.blt first ||
    other.first.ble first && (run.first == run.last || run.step % other.step == 0) &&
      (first - other.first) % other.step != 0

/-- A lower-case form from a run that is clear of another is not moved by it. -/
theorem CaseRun.not_covers_of_clears {run other : CaseRun} {n : Nat}
    (reaches : 0 ≤ run.first + run.shift) (clear : run.clears other = true)
    (covered : run.covers n = true) : other.covers (n + run.shift).toNat = false := by
  simp only [covers, Bool.and_eq_true, decide_eq_true_eq, beq_iff_eq] at covered
  obtain ⟨⟨least, greatest⟩, onStep⟩ := covered
  have form : (n + run.shift).toNat = (run.first + run.shift).toNat + (n - run.first) := by omega
  have ends : (run.last + run.shift).toNat =
      (run.first + run.shift).toNat + (run.last - run.first) := by omega
  simp only [clears, Bool.or_eq_true, Bool.and_eq_true, Nat.blt_eq, Nat.ble_eq, beq_iff_eq,
    bne_iff_ne] at clear
  rw [Bool.eq_false_iff]
  intro meets
  simp only [covers, Bool.and_eq_true, decide_eq_true_eq, beq_iff_eq] at meets
  obtain ⟨⟨otherLeast, otherGreatest⟩, otherOnStep⟩ := meets
  rcases clear with (before | behind) | ⟨⟨inside, agree⟩, passes⟩
  · omega
  · omega
  · have along : other.step ∣ n - run.first := by
      rcases agree with single | divides
      · have none : n - run.first = 0 := by omega
        rw [none]
        exact Nat.dvd_zero _
      · exact Nat.dvd_trans (Nat.dvd_of_mod_eq_zero divides) (Nat.dvd_of_mod_eq_zero onStep)
    have away : (n + run.shift).toNat - other.first =
        ((run.first + run.shift).toNat - other.first) + (n - run.first) := by omega
    obtain ⟨steps, distance⟩ := along
    rw [away, distance, Nat.add_mul_mod_self_left] at otherOnStep
    exact passes otherOnStep

/-- The capital dotted I, which has a rule of its own, as a run. -/
def dottedI : CaseRun := ⟨0x130, 0x130, 1, 0⟩

/-- No lower-case form in the table has another one, and none is the capital dotted I. -/
theorem caseRuns_clear : (caseRuns.all fun run => decide (0 ≤ run.first + run.shift) &&
    (dottedI :: caseRuns).all run.clears) = true := by
  decide +kernel

/-- A character that no rule is about is its own lower-case form. -/
theorem lowerChar_of_not_covered {c : Char} (other : dottedI.covers c.toNat = false)
    (uncovered : ∀ run ∈ caseRuns, run.covers c.toNat = false) : lowerChar c = [c] := by
  -- The first run of the table is that of the capital letters of ASCII.
  have capitals := uncovered _ (List.mem_cons_self ..)
  simp only [CaseRun.covers, Nat.mod_one, beq_self_eq_true, Bool.and_true, Bool.and_eq_false_iff,
    decide_eq_false_iff_not] at capitals
  have notCapital : ¬(65 ≤ c.toNat && c.toNat ≤ 90) = true := by
    simp only [Bool.and_eq_true, decide_eq_true_eq]
    omega
  have notDotted : c.toNat ≠ 0x130 := by
    intro same
    rw [same] at other
    contradiction
  have missing : caseRuns.find? (·.covers c.toNat) = none :=
    List.find?_eq_none.2 fun run member => by simp [uncovered run member]
  rw [lowerChar]
  simp only [if_neg notCapital, if_neg notDotted, missing, ite_self]

/-- What a run moves characters to is in lower case. -/
theorem lowerChar_of_covers {run : CaseRun} (member : run ∈ caseRuns) {n : Nat}
    (covered : run.covers n = true) :
    lowerChar (Char.ofNat (n + run.shift).toNat) = [Char.ofNat (n + run.shift).toNat] := by
  have clear := List.all_eq_true.1 caseRuns_clear run member
  rw [Bool.and_eq_true, decide_eq_true_eq, List.all_eq_true] at clear
  obtain ⟨reaches, clears⟩ := clear
  have uncovered : ∀ other ∈ dottedI :: caseRuns, other.covers (n + run.shift).toNat = false :=
    fun other among => CaseRun.not_covers_of_clears reaches (clears other among) covered
  by_cases valid : (n + run.shift).toNat.isValidChar
  · have code : (Char.ofNat (n + run.shift).toNat).toNat = (n + run.shift).toNat := by
      rw [Char.ofNat, dif_pos valid]
      rfl
    refine lowerChar_of_not_covered ?_ fun other among => ?_
    · rw [code]
      exact uncovered _ (List.mem_cons_self ..)
    · rw [code]
      exact uncovered _ (List.mem_cons_of_mem _ among)
  · rw [Char.ofNat, dif_neg valid]
    rfl

/-- What the capital letters of ASCII are lowered to is in lower case. -/
theorem lowerChar_of_ascii {n : Nat} (capital : 65 ≤ n ∧ n ≤ 90) :
    lowerChar (Char.ofNat (n + 32)) = [Char.ofNat (n + 32)] := by
  have all : ∀ n < 91, 65 ≤ n → lowerChar (Char.ofNat (n + 32)) = [Char.ofNat (n + 32)] := by
    decide +kernel
  exact all n (by omega) capital.1

/-- A character is its own lower-case form, or a capital letter of ASCII, or the dotted capital I,
or a run moves it. -/
theorem lowerChar_cases (c : Char) :
    lowerChar c = [c] ∨
      ((65 ≤ c.toNat ∧ c.toNat ≤ 90) ∧ lowerChar c = [Char.ofNat (c.toNat + 32)]) ∨
      lowerChar c = ['i', Char.ofNat 0x307] ∨
      ∃ run ∈ caseRuns, run.covers c.toNat = true ∧
        lowerChar c = [Char.ofNat (c.toNat + run.shift).toNat] := by
  rw [lowerChar]
  by_cases ascii : c.toNat < 128
  · by_cases capital : (65 ≤ c.toNat && c.toNat ≤ 90) = true
    · have range : 65 ≤ c.toNat ∧ c.toNat ≤ 90 := by simpa using capital
      exact .inr (.inl ⟨range, by simp only [if_pos ascii, if_pos capital]⟩)
    · exact .inl (by simp only [if_pos ascii, if_neg capital])
  · by_cases dotted : c.toNat = 0x130
    · exact .inr (.inr (.inl (by simp only [if_neg ascii, if_pos dotted])))
    · cases found : caseRuns.find? (·.covers c.toNat) with
      | none => exact .inl (by simp only [if_neg ascii, if_neg dotted])
      | some run =>
        have covered : run.covers c.toNat = true := by
          simpa using List.find?_some found
        refine .inr (.inr (.inr ⟨run, List.mem_of_find?_eq_some found, covered, ?_⟩))
        simp only [if_neg ascii, if_neg dotted]

/-- A lower-case form of a character is in lower case. -/
theorem lowerChar_of_mem {c d : Char} (member : d ∈ lowerChar c) : lowerChar d = [d] := by
  rcases lowerChar_cases c with own | ⟨capital, form⟩ | forms | ⟨run, among, covered, form⟩
  · rw [own, List.mem_singleton] at member
    rw [member]
    exact own
  · rw [form, List.mem_singleton] at member
    rw [member]
    exact lowerChar_of_ascii capital
  · have both : ∀ d ∈ ['i', Char.ofNat 0x307], lowerChar d = [d] := by
      simp only [List.forall_mem_cons]
      exact ⟨rfl, by decide +kernel, by simp⟩
    rw [forms] at member
    exact both d member
  · rw [form, List.mem_singleton] at member
    rw [member]
    exact lowerChar_of_covers among covered

/-! ## Texts -/

/-- Lowering a text that has its lower-case forms already changes nothing. -/
theorem lowerFrom_of_lowered {before text : List Char}
    (lowered : ∀ c ∈ text, lowerChar c = [c]) : lowerFrom before text = text := by
  induction text generalizing before with
  | nil => rfl
  | cons c text ih =>
    have own : lowerChar c = [c] := lowered c (List.mem_cons_self ..)
    have noSigma : c ≠ 'Σ' := by
      rintro rfl
      have form : lowerChar 'Σ' = ['σ'] := by decide +kernel
      rw [form] at own
      contradiction
    rw [lowerFrom, if_neg noSigma, own,
      ih fun d member => lowered d (List.mem_cons_of_mem _ member)]
    rfl

/-- A lowered text has the lower-case forms of its characters. -/
theorem lowerChar_of_mem_lowerFrom {before text : List Char} {d : Char}
    (member : d ∈ lowerFrom before text) : lowerChar d = [d] := by
  induction text generalizing before with
  | nil => contradiction
  | cons c text ih =>
    rw [lowerFrom, List.mem_append] at member
    rcases member with here | later
    · by_cases sigma : c = 'Σ'
      · rw [if_pos sigma, List.mem_singleton] at here
        rw [here]
        split <;> decide +kernel
      · rw [if_neg sigma] at here
        exact lowerChar_of_mem here
    · exact ih later

/-! ## Blanks -/

/-- The blank characters. -/
def blanks : List Char :=
  [9, 10, 11, 12, 13, 32, 0x85, 0xA0, 0x1680, 0x2000, 0x2001, 0x2002, 0x2003, 0x2004, 0x2005,
    0x2006, 0x2007, 0x2008, 0x2009, 0x200A, 0x2028, 0x2029, 0x202F, 0x205F, 0x3000].map Char.ofNat

/-- There are no blanks besides these. -/
theorem mem_blanks {c : Char} (blank : isBlank c = true) : c ∈ blanks := by
  rw [blanks, List.mem_map]
  refine ⟨c.toNat, ?_, Char.ofNat_toNat c⟩
  simp only [isBlank, Bool.or_eq_true, Bool.and_eq_true, decide_eq_true_eq, beq_iff_eq] at blank
  simp only [List.mem_cons, List.not_mem_nil, or_false]
  omega

/-- What is checked of each of these holds of every blank. -/
theorem of_isBlank {holds : Char → Bool} (all : blanks.all holds = true) {c : Char}
    (blank : isBlank c = true) : holds c = true :=
  List.all_eq_true.1 all c (mem_blanks blank)

/-- A blank is its own lower-case form, and the rule for the final sigma stops at it. -/
theorem lowering_of_isBlank {c : Char} (blank : isBlank c = true) :
    c ≠ 'Σ' ∧ lowerChar c = [c] ∧ isCased c = false ∧ isCaseIgnorable c = false := by
  have all : (blanks.all fun c =>
      c != 'Σ' && lowerChar c == [c] && !isCased c && !isCaseIgnorable c) = true := by
    decide +kernel
  simpa [and_assoc] using of_isBlank all blank

/-- A blank behind the characters before a sigma has no part in whether they meet a letter. -/
theorem meetsCased_append_blank {c : Char} (blank : isBlank c = true) (text : List Char) :
    meetsCased (text ++ [c]) = meetsCased text := by
  obtain ⟨-, -, uncased, looksNoFurther⟩ := lowering_of_isBlank blank
  rw [meetsCased, meetsCased, List.dropWhile_append]
  cases text.dropWhile isCaseIgnorable with
  | nil => simp [looksNoFurther, uncased]
  | cons d rest => simp

/-- A blank at the start of a text has no part in how the rest is lowered. -/
theorem lowerFrom_append_blank {c : Char} (blank : isBlank c = true) (before text : List Char) :
    lowerFrom (before ++ [c]) text = lowerFrom before text := by
  induction text generalizing before with
  | nil => rfl
  | cons d text ih =>
    rw [lowerFrom, lowerFrom, meetsCased_append_blank blank, ← List.cons_append, ih]

/-- A blank in front of a text stays in front of the lowered text. -/
theorem lower_cons_of_isBlank {c : Char} (blank : isBlank c = true) (text : List Char) :
    lower (c :: text) = c :: lower text := by
  obtain ⟨noSigma, own, -⟩ := lowering_of_isBlank blank
  rw [lower, lowerFrom, if_neg noSigma, own]
  exact congrArg (c :: ·) (lowerFrom_append_blank blank [] text)

end Assay.Text
