import Assay.Json.Parser
import Assay.Proofs.Null
import Mathlib.Data.List.DropRight

/-!
# What is read as a list, an object and a number

The readers of JSON text as statements of what they take and what they leave. A list is closed at
once or holds a value, and after each value it ends or goes on with a comma; an object is the same
with members. Blanks in front of any of these make no difference.
-/
namespace Assay.Json

open Number (isDigit)

variable {depth fuel : Nat} {text rest : List Char} {value : Value} {items : List Value}
  {members : List (String × Value)}

/-! ## Blanks -/

/-- There are no blanks in front once they are left out. -/
theorem skip_skip (text : List Char) : skip (skip text) = skip text :=
  List.dropWhile_idempotent _ text

/-- A character that is no blank stays in front. -/
theorem skip_cons {c : Char} (solid : isSpace c = false) (text : List Char) :
    skip (c :: text) = c :: text :=
  List.dropWhile_cons_of_neg (Bool.eq_false_iff.mp solid)

/-- Blanks in front of a value make no difference to it. -/
theorem readValue_skip (depth : Nat) (text : List Char) :
    readValue depth (skip text) = readValue depth text := by
  cases depth <;> rw [readValue, skip_skip, readValue]

/-- A value that is read has something to start with, and that is no closing bracket. -/
theorem exists_skip_eq_cons (read : readValue depth text = .ok (value, rest)) :
    ∃ c tail, skip text = c :: tail ∧ c ≠ ']' := by
  unfold readValue at read
  split at read
  case h_1 => contradiction
  case h_9 c tail _ _ _ _ _ _ _ same =>
    refine ⟨c, tail, same, ?_⟩
    rintro rfl
    contradiction
  all_goals next same => exact ⟨_, _, same, by decide⟩

/-! ## Lists and objects -/

/-- The items of a list after its first one end with a bracket or go on with a comma and a value. -/
theorem readItems_eq_ok_iff :
    readItems (readValue depth) (fuel + 1) text = .ok (items, rest) ↔
      (items = [] ∧ skip text = ']' :: rest) ∨
      ∃ item later after left, items = item :: later ∧ skip text = ',' :: after ∧
        readValue depth after = .ok (item, left) ∧
        readItems (readValue depth) fuel left = .ok (later, rest) := by
  rw [readItems]
  constructor
  · intro read
    split at read
    case h_1 => contradiction
    case h_2 closed =>
      cases read
      exact .inl ⟨rfl, closed⟩
    case h_3 after comma =>
      split at read
      case h_1 => contradiction
      case h_2 => contradiction
      case h_3 =>
        obtain ⟨⟨item, left⟩, first, goOn⟩ := exists_of_bind_eq_ok read
        obtain ⟨⟨later, rest⟩, others, same⟩ := exists_of_bind_eq_ok goOn
        cases same
        rw [readValue_skip] at first
        exact .inr ⟨item, later, after, left, rfl, comma, first, others⟩
    case h_4 => contradiction
  · rintro (⟨rfl, closed⟩ | ⟨item, later, after, left, rfl, comma, first, others⟩)
    · simp only [closed]
    · obtain ⟨c, tail, front, open_⟩ := exists_skip_eq_cons first
      rw [← readValue_skip, front] at first
      simp only [comma, front]
      split
      case h_1 none => contradiction
      case h_2 closed => exact absurd (List.cons.inj closed).1 open_
      case h_3 => simp only [first, others, bind, Except.bind]

/-- A list after its opening bracket is closed at once or starts with a value. -/
theorem readList_eq_ok_iff :
    readList (readValue depth) text = .ok (items, rest) ↔
      (items = [] ∧ skip text = ']' :: rest) ∨
      ∃ item later left, items = item :: later ∧ readValue depth text = .ok (item, left) ∧
        readItems (readValue depth) left.length left = .ok (later, rest) := by
  rw [readList]
  constructor
  · intro read
    split at read
    case h_1 => contradiction
    case h_2 closed =>
      cases read
      exact .inl ⟨rfl, closed⟩
    case h_3 =>
      obtain ⟨⟨item, left⟩, first, goOn⟩ := exists_of_bind_eq_ok read
      obtain ⟨⟨later, rest⟩, others, same⟩ := exists_of_bind_eq_ok goOn
      cases same
      exact .inr ⟨item, later, left, rfl, readValue_skip depth text ▸ first, others⟩
  · rintro (⟨rfl, closed⟩ | ⟨item, later, left, rfl, first, others⟩)
    · simp only [closed]
    · obtain ⟨c, tail, front, open_⟩ := exists_skip_eq_cons first
      rw [← readValue_skip, front] at first
      rw [front]
      split
      case h_1 none => contradiction
      case h_2 closed => exact absurd (List.cons.inj closed).1 open_
      case h_3 => simp only [first, others, bind, Except.bind]

/-- A member after its opening quote is a name, a colon and a value. -/
theorem readMember_eq_ok_iff {member : String × Value} :
    readMember (readValue depth) text = .ok (member, rest) ↔
      ∃ content between after, readText 0 text = .ok (content, between) ∧
        skip between = ':' :: after ∧ readValue depth after = .ok (member.2, rest) ∧
        member.1 = String.ofList content := by
  rw [readMember]
  constructor
  · intro read
    obtain ⟨⟨content, between⟩, named, goOn⟩ := exists_of_bind_eq_ok read
    dsimp only at goOn
    split at goOn
    case h_1 => contradiction
    case h_2 after colon =>
      obtain ⟨⟨value, rest⟩, held, same⟩ := exists_of_bind_eq_ok goOn
      cases same
      exact ⟨content, between, after, named, colon, held, rfl⟩
    case h_3 => contradiction
  · rintro ⟨content, between, after, named, colon, held, same⟩
    obtain ⟨name, value⟩ := member
    simp only [named, colon, held, bind, Except.bind]
    rw [← same]

/-- The members of an object after its first one end with a brace, or go on with a comma and a
member. -/
theorem readMembers_eq_ok_iff :
    readMembers (readValue depth) (fuel + 1) text = .ok (members, rest) ↔
      (members = [] ∧ skip text = '\x7d' :: rest) ∨
      ∃ member later after front left, members = member :: later ∧ skip text = ',' :: after ∧
        skip after = '"' :: front ∧ readMember (readValue depth) front = .ok (member, left) ∧
        readMembers (readValue depth) fuel left = .ok (later, rest) := by
  rw [readMembers]
  constructor
  · intro read
    split at read
    case h_1 => contradiction
    case h_2 closed =>
      cases read
      exact .inl ⟨rfl, closed⟩
    case h_3 after comma =>
      split at read
      case h_2 front quote =>
        obtain ⟨⟨member, left⟩, first, goOn⟩ := exists_of_bind_eq_ok read
        obtain ⟨⟨later, rest⟩, others, same⟩ := exists_of_bind_eq_ok goOn
        cases same
        exact .inr ⟨member, later, after, front, left, rfl, comma, quote, first, others⟩
      all_goals contradiction
    case h_4 => contradiction
  · rintro (⟨rfl, closed⟩ | ⟨member, later, after, front, left, rfl, comma, quote, first, others⟩)
    · simp only [closed]
    · simp only [comma, quote, first, others, bind, Except.bind]

/-- An object after its opening brace is closed at once or starts with a member. -/
theorem readObject_eq_ok_iff :
    readObject (readValue depth) text = .ok (members, rest) ↔
      (members = [] ∧ skip text = '\x7d' :: rest) ∨
      ∃ member later front left, members = member :: later ∧ skip text = '"' :: front ∧
        readMember (readValue depth) front = .ok (member, left) ∧
        readMembers (readValue depth) left.length left = .ok (later, rest) := by
  rw [readObject]
  constructor
  · intro read
    split at read
    case h_1 => contradiction
    case h_2 closed =>
      cases read
      exact .inl ⟨rfl, closed⟩
    case h_3 front quote =>
      obtain ⟨⟨member, left⟩, first, goOn⟩ := exists_of_bind_eq_ok read
      obtain ⟨⟨later, rest⟩, others, same⟩ := exists_of_bind_eq_ok goOn
      cases same
      exact .inr ⟨member, later, front, left, rfl, quote, first, others⟩
    case h_4 => contradiction
  · rintro (⟨rfl, closed⟩ | ⟨member, later, front, left, rfl, quote, first, others⟩)
    · simp only [closed]
    · simp only [quote, first, others, bind, Except.bind]

/-! ## Numbers -/

/-- A number that goes on with no point and no mark of an exponent ends after its whole digits. -/
theorem readAfterWhole_of_other {negative : Bool} {digits dropped : Nat}
    (other : ∀ c ∈ text.head?, c ≠ '.' ∧ c ≠ 'e' ∧ c ≠ 'E') :
    readAfterWhole negative digits dropped text =
      if 0 < dropped then realOf negative digits dropped text
      else if !negative then .ok (.int digits, text)
      else if digits = 0 || Number.word64Bound < 2 * digits then realOf true digits 0 text
      else .ok (.int (-(digits : Int)), text) := by
  unfold readAfterWhole
  split
  case h_1 => exact absurd rfl (other _ rfl).1
  case h_2 => exact absurd rfl (other _ rfl).2.1
  case h_3 => exact absurd rfl (other _ rfl).2.2
  case h_4 => rfl

/-- A digit is no blank. -/
theorem isSpace_of_isDigit {c : Char} (digit : isDigit c = true) : isSpace c = false := by
  by_contra blank
  simp only [isSpace, Bool.not_eq_false, Bool.or_eq_true, decide_eq_true_eq] at blank
  rcases blank with ((rfl | rfl) | rfl) | rfl <;> contradiction

/-- A value that starts with a digit is a number. -/
theorem readValue_of_digit {c : Char} {tail : List Char} (front : skip text = c :: tail)
    (digit : isDigit c = true) : readValue depth text = readNumber false (c :: tail) := by
  unfold readValue
  rw [front]
  split
  case h_1 none => contradiction
  case h_9 same =>
    cases same
    rw [if_pos digit]
  all_goals next same =>
    cases same
    exact absurd digit (by decide)

end Assay.Json
