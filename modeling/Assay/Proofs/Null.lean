import Assay.Json.Parser
import Assay.Proofs.Steps
import Mathlib.Data.List.TakeWhile

/-!
# Which text is null

A reader of JSON decides by the first character after the blanks what kind of value it reads, and
each kind makes values of its own. So nothing but the word for null is read as null, whatever the
text: not a number that is past all bounds, and no list or object (`parse_eq_null_iff`).
-/
namespace Assay.Json

/-! ## Blanks and words -/

/-- A text has blanks at its front and then what is left without them. -/
theorem exists_blanks_append_skip (text : List Char) :
    ∃ front, text = front ++ skip text ∧ ∀ c ∈ front, isSpace c = true :=
  ⟨text.takeWhile isSpace, List.takeWhile_append_dropWhile.symm, fun _ => List.mem_takeWhile_imp⟩

/-- Blanks at the front of a text make no difference to what is left without them. -/
theorem skip_blanks_append {front : List Char} (blanks : ∀ c ∈ front, isSpace c = true)
    (text : List Char) : skip (front ++ text) = skip text :=
  List.dropWhile_append_of_pos blanks

/-- What is read after a word is what stands after it. -/
theorem expect_eq_ok_iff {word text rest : List Char} :
    expect word text = .ok rest ↔ text = word ++ rest := by
  induction word generalizing text with
  | nil => exact Except.ok.injEq _ _ |>.to_iff
  | cons w word ih =>
    cases text with
    | nil => simp [expect]
    | cons c text =>
      rw [expect]
      split
      · next same => simp [ih, same]
      · next differs => simp [differs]

/-! ## Numbers -/

/-- A value is a number. -/
inductive Value.IsNumber : Value → Prop
  | int (number : Int) : IsNumber (.int number)
  | real (number : Float) : IsNumber (.real number)

variable {negative : Bool} {digits : Nat} {text rest : List Char} {value : Value}

/-- A float is a number. -/
theorem isNumber_of_realOf {exponent : Int}
    (read : realOf negative digits exponent text = .ok (value, rest)) : value.IsNumber := by
  unfold realOf at read
  split at read
  · cases read
    exact .real _
  · contradiction

/-- What an exponent makes of digits is a number. -/
theorem isNumber_of_readExponent {exponent : Int}
    (read : readExponent negative digits exponent text = .ok (value, rest)) : value.IsNumber := by
  unfold readExponent at read
  dsimp only at read
  split at read
  · contradiction
  · split at read
    · contradiction
    · split at read
      · exact isNumber_of_realOf read
      · split at read
        · contradiction
        · cases read
          exact .real _

/-- Whole digits and what follows them are a number. -/
theorem isNumber_of_readAfterWhole {dropped : Nat}
    (read : readAfterWhole negative digits dropped text = .ok (value, rest)) : value.IsNumber := by
  unfold readAfterWhole at read
  split at read
  case h_1 => 
    dsimp only at read
    split at read
    · contradiction
    · split at read
      · exact isNumber_of_readExponent read
      · exact isNumber_of_readExponent read
      · exact isNumber_of_realOf read
  case h_2 => exact isNumber_of_readExponent read
  case h_3 => exact isNumber_of_readExponent read
  case h_4 =>
    split at read
    · exact isNumber_of_realOf read
    · split at read
      · cases read
        exact .int _
      · split at read
        · exact isNumber_of_realOf read
        · cases read
          exact .int _

/-- What is read as a number is one. -/
theorem isNumber_of_readNumber (read : readNumber negative text = .ok (value, rest)) :
    value.IsNumber := by
  unfold readNumber at read
  split at read
  · contradiction
  · split at read
    · split at read
      · contradiction
      · exact isNumber_of_readAfterWhole read
    · exact isNumber_of_readAfterWhole read
  · split at read
    · exact isNumber_of_readAfterWhole read
    · contradiction

/-- No number is null. -/
theorem readNumber_ne_null : readNumber negative text ≠ .ok (.null, rest) :=
  fun read => nomatch isNumber_of_readNumber read

/-! ## Values -/

/-- What makes no null of what was read before it does not come to null. -/
theorem bind_ne_null {α : Type} {first : Except Fault α}
    {next : α → Except Fault (Value × List Char)}
    (other : ∀ found, next found ≠ .ok (.null, rest)) :
    (first >>= next) ≠ .ok (.null, rest) := by
  intro both
  obtain ⟨found, -, null⟩ := exists_of_bind_eq_ok both
  exact other found null

/-- Null is read where the word for it is what is left without blanks. -/
theorem readValue_eq_null_iff {depth : Nat} :
    readValue depth text = .ok (.null, rest) ↔ skip text = "null".toList ++ rest := by
  constructor
  · intro read
    unfold readValue at read
    split at read
    · contradiction
    · next front =>
      obtain ⟨left, word, made⟩ := exists_of_bind_eq_ok read
      cases made
      rw [front, expect_eq_ok_iff.mp word]
      rfl
    -- The two truths, a number after a sign, a text, a list, an object and a number without one.
    · exact absurd read (bind_ne_null nofun)
    · exact absurd read (bind_ne_null nofun)
    · exact absurd read readNumber_ne_null
    · exact absurd read (bind_ne_null nofun)
    · split at read
      · contradiction
      · exact absurd read (bind_ne_null nofun)
    · split at read
      · contradiction
      · exact absurd read (bind_ne_null nofun)
    · split at read
      · exact absurd read readNumber_ne_null
      · contradiction
  · intro front
    have word : expect ['u', 'l', 'l'] ("ull".toList ++ rest) = .ok rest :=
      expect_eq_ok_iff.mpr rfl
    unfold readValue
    rw [front]
    exact congrArg (· >>= fun rest => .ok (Value.null, rest)) word

/-- A text holds a value when nothing but blanks is left after the value is read. -/
theorem parse_eq_ok_iff {content : String} :
    parse content = .ok value ↔
      ∃ back, readValue depthLimit content.toList = .ok (value, back) ∧
        ∀ c ∈ back, isSpace c = true := by
  have whole : parse content = .ok value ↔ parseChars content.toList = .ok value :=
    mapError_eq_ok_iff
  rw [whole, parseChars]
  constructor
  · intro both
    obtain ⟨⟨found, back⟩, readFront, readBack⟩ := exists_of_bind_eq_ok both
    dsimp only at readBack
    split at readBack
    · next blank =>
      cases readBack
      exact ⟨back, readFront, List.dropWhile_eq_nil_iff.mp blank⟩
    · contradiction
  · rintro ⟨back, readFront, blanks⟩
    have readBack : skip back = [] := List.dropWhile_eq_nil_iff.mpr blanks
    simp only [readFront, Except.bind, bind, readBack]

/-- A text is the word for null between blanks. -/
def SpellsNull (text : List Char) : Prop :=
  ∃ front back, text = front ++ "null".toList ++ back ∧ (∀ c ∈ front, isSpace c = true) ∧
    ∀ c ∈ back, isSpace c = true

/-- A text is null when it is the word for it. -/
theorem parse_eq_null_iff {content : String} :
    parse content = .ok .null ↔ SpellsNull content.toList := by
  rw [parse_eq_ok_iff]
  constructor
  · rintro ⟨back, read, blankBack⟩
    obtain ⟨front, same, blankFront⟩ := exists_blanks_append_skip content.toList
    rw [readValue_eq_null_iff.mp read, ← List.append_assoc] at same
    exact ⟨front, back, same, blankFront, blankBack⟩
  · rintro ⟨front, back, same, blankFront, blankBack⟩
    refine ⟨back, ?_, blankBack⟩
    rw [readValue_eq_null_iff, same, List.append_assoc, skip_blanks_append blankFront]
    rfl

end Assay.Json
