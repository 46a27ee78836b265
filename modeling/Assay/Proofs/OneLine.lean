import Assay.Json.Printer
import Assay.Proofs.Compact
import Assay.Proofs.Cutting

/-!
# Lines of text

A text is made of lines when a line feed ends each of them and stands nowhere else, so there is at
most one way to take a text as lines (`HasLines.unique`).

A JSON value that is written without blanks stays on its line, whatever texts it holds: line feeds
and all other control characters are written as escapes, also in the names of members
(`oneLine_writeValue`).
-/
namespace Assay

namespace Text

/-- A text is these lines, with a line feed after each of them and none inside. -/
structure HasLines (text : String) (lines : List String) : Prop where
  /-- The text is its lines one after the other, each ended by a line feed. -/
  ended : text = String.join (lines.map (· ++ "\n"))
  /-- A line has no line feed of its own. -/
  whole : ∀ line ∈ lines, '\n' ∉ line.toList

/-- Between the line feeds of a text stand its lines, and nothing stands after the last one. -/
theorem HasLines.cut_eq {text : String} {lines : List String} (has : HasLines text lines) :
    cut (· = '\n') text.toList = lines.map String.toList ++ [[]] := by
  obtain ⟨rfl, whole⟩ := has
  induction lines with
  | nil => rfl
  | cons line lines ih =>
    obtain ⟨here, later⟩ := List.forall_mem_cons.mp whole
    have alone : cut (· = '\n') line.toList = [line.toList] := by
      refine cut_of_whole fun c among => decide_eq_false ?_
      rintro rfl
      exact here among
    have front : (String.join ((line :: lines).map (· ++ "\n"))).toList =
        line.toList ++ '\n' :: (String.join (lines.map (· ++ "\n"))).toList := by
      simp
    rw [front, cut_append_cons (decide_eq_true rfl), alone, ih later]
    rfl

/-- A text has its lines in one way only. -/
theorem HasLines.unique {text : String} {lines others : List String} (has : HasLines text lines)
    (other : HasLines text others) : others = lines := by
  have same := other.cut_eq.symm.trans has.cut_eq
  exact List.map_injective_iff.mpr (fun _ _ => String.toList_injective)
    (List.append_cancel_right same)

end Text

namespace Json

/-- A text without control characters, line feeds and carriage returns among them. Every character
from the space on may stand in it. -/
def OneLine (text : List Char) : Prop := ∀ c ∈ text, 32 ≤ c.toNat

instance (text : List Char) : Decidable (OneLine text) := List.decidableBAll _ text

@[simp] theorem oneLine_nil : OneLine [] := List.forall_mem_nil _

@[simp] theorem oneLine_cons {c : Char} {text : List Char} :
    OneLine (c :: text) ↔ 32 ≤ c.toNat ∧ OneLine text := List.forall_mem_cons

@[simp] theorem oneLine_append {front back : List Char} :
    OneLine (front ++ back) ↔ OneLine front ∧ OneLine back := List.forall_mem_append

/-- There is no line feed in a text without control characters. -/
theorem OneLine.notMem {text : List Char} (oneLine : OneLine text) : '\n' ∉ text := by
  intro among
  exact absurd (oneLine '\n' among) (by decide)

/-- A text of characters from a text on one line stands on one line. -/
theorem OneLine.of_subset {text part : List Char} (oneLine : OneLine text) (subset : part ⊆ text) :
    OneLine part :=
  fun c among => oneLine c (subset among)

/-! ## Numbers -/

/-- Digits stand on one line. -/
theorem oneLine_toDigits (n : Nat) : OneLine (Nat.toDigits 10 n) := by
  intro c among
  have digit := isDigit_of_mem_toDigits among
  simp only [Number.isDigit, Bool.and_eq_true, decide_eq_true_eq, Char.le_def,
    UInt32.le_iff_toNat_le] at digit
  exact Nat.le_trans (by decide) digit.1

/-- An integer is written on one line. -/
theorem oneLine_writeInt (number : Int) : OneLine (writeInt number) := by
  cases number with
  | ofNat n => exact oneLine_toDigits n
  | negSucc n => exact oneLine_cons.mpr ⟨by decide, oneLine_toDigits (n + 1)⟩

/-- A decimal number is written on one line. -/
theorem oneLine_writeDecimal (digits : Nat) (exponent : Int) :
    OneLine (writeDecimal digits exponent) := by
  have written := oneLine_toDigits digits
  have front (count : Nat) : OneLine ((Nat.toDigits 10 digits).take count) :=
    written.of_subset (List.take_subset ..)
  have back (count : Nat) : OneLine ((Nat.toDigits 10 digits).drop count) :=
    written.of_subset (List.drop_subset ..)
  have zeros (count : Nat) : OneLine (List.replicate count '0') := fun c among => by
    rw [List.eq_of_mem_replicate among]
    decide
  simp only [writeDecimal]
  split
  · split
    · simp [written, zeros]
    · split
      · simp [front, back]
      · simp [written, zeros]
  · have later : OneLine (Nat.toDigits 10 digits).tail :=
      written.of_subset (List.tail_sublist _).subset
    have power := oneLine_toDigits (exponent + (Nat.toDigits 10 digits).length - 1).natAbs
    split <;> split <;> simp [front, later, power]

/-- A float is written on one line. -/
theorem oneLine_writeReal (number : Float) : OneLine (writeReal number) := by
  unfold writeReal
  split
  · next negative significand exponent _ =>
    dsimp only
    have magnitude : OneLine (if significand = 0 then ['0', '.', '0']
        else writeDecimal (Number.shortest significand exponent).1
          (Number.shortest significand exponent).2) := by
      split
      · decide
      · exact oneLine_writeDecimal _ _
    split
    · exact oneLine_cons.mpr ⟨by decide, magnitude⟩
    · exact magnitude
  · decide

/-! ## Texts and values -/

/-- A character of a text is written on one line, as an escape if it is a control character. -/
theorem oneLine_writeChar (c : Char) : OneLine (writeChar c) := by
  have digit : ∀ n < 16, 32 ≤ (Nat.digitChar n).toNat := by decide
  unfold writeChar
  split
  case h_8 =>
    split
    · next control =>
      have high := digit (c.toNat / 16) (by omega)
      have low := digit (c.toNat % 16) (by omega)
      simp [high, low]
    · next printed => simpa using printed
  all_goals decide

/-- A text is written on one line. -/
theorem oneLine_writeText (content : String) : OneLine (writeText content) := by
  have inside : OneLine (content.toList.flatMap writeChar) := by
    intro c among
    obtain ⟨source, -, written⟩ := List.mem_flatMap.mp among
    exact oneLine_writeChar source c written
  simp [writeText, inside]

mutual

/-- A value is written on one line. -/
theorem oneLine_writeValue : ∀ value : Value, OneLine (writeValue value)
  | .null => by decide
  | .bool truth => by cases truth <;> decide
  | .int number => oneLine_writeInt number
  | .real number => oneLine_writeReal number
  | .text content => oneLine_writeText content
  | .list [] => by decide
  | .list (item :: items) => by
    simp [writeValue, oneLine_writeValue item, oneLine_writeItems items]
  | .object [] => by decide
  | .object ((name, value) :: members) => by
    simp [writeValue, oneLine_writeText name, oneLine_writeValue value,
      oneLine_writeMembers members]

/-- The items of a list after its first one are written on one line. -/
theorem oneLine_writeItems : ∀ items : List Value, OneLine (writeItems items)
  | [] => by decide
  | item :: items => by
    simp [writeItems, oneLine_writeValue item, oneLine_writeItems items]

/-- The members of an object after its first one are written on one line. -/
theorem oneLine_writeMembers : ∀ members : List (String × Value), OneLine (writeMembers members)
  | [] => by decide
  | (name, value) :: members => by
    simp [writeMembers, oneLine_writeText name, oneLine_writeValue value,
      oneLine_writeMembers members]

end

end Json
end Assay
