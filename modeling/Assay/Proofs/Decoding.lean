import Assay.Json.Decode
import Assay.Proofs.Steps
import Mathlib.Data.List.Forall2

/-!
# What a decoded record was read from

A record is written as an object or as a list of its fields, and either way a field is read from
what the value holds in its place, if it holds anything. So what is known of a decoded record is
said of the fields of its value, for both ways of writing it at once. A field that may be null was
absent, null or a value of its type (`Given`), and a list was read item by item.
-/
namespace Assay.Json

/-- What a value holds in a field of a record: the member with the name of the field, or the item at
its place where the record is written as a list. -/
def Value.field? (place : Nat) (name : String) : Value → Option Value
  | .object members => Members.get? name members
  | .list items => items[place]?
  | _ => none

/-- The text of a value that is one. -/
def Value.text? : Value → Option String
  | .text content => some content
  | _ => none

/-- The number of a value that is an integer, if it is not negative. -/
def Value.count? : Value → Option Nat
  | .int (.ofNat n) => some n
  | _ => none

/-- The items of a value that is a list. -/
def Value.items : Value → List Value
  | .list items => items
  | _ => []

namespace Decode

variable {α : Type}

/-- Read what a value holds in a field, if it holds anything. A member of an object and an item of a
list of fields are both read so. -/
def optional (decode : Decoder α) : Option Value → Except Mismatch (Option α)
  | some value => (decode value).map some
  | none => .ok none

/-- A decoded record was an object or a list of fields. -/
theorem cases_of_record {name : String} {fields : Nat} {tellsFields : Bool}
    {ofMembers : Members → Except Mismatch α} {ofRow : Row → Except Mismatch α} {value : Value}
    {result : α} (read : record name fields tellsFields ofMembers ofRow value = .ok result) :
    (∃ members, value = .object members ∧ ofMembers members = .ok result) ∨
      ∃ row : Row, value = .list row.items ∧ ofRow row = .ok result := by
  cases value with
  | object members => exact .inl ⟨members, rfl, read⟩
  | list items =>
    obtain ⟨made, readRow, rest⟩ := exists_of_bind_eq_ok read
    obtain ⟨-, -, same⟩ := exists_of_bind_eq_ok rest
    exact .inr ⟨_, rfl, same ▸ readRow⟩
  | _ => contradiction

/-- A field that was read was absent or of its type. -/
theorem cases_of_optional {decode : Decoder α} {field : Option Value} {found : Option α}
    (read : optional decode field = .ok found) :
    (field = none ∧ found = none) ∨
      ∃ value content, field = some value ∧ decode value = .ok content ∧ found = some content := by
  cases field with
  | none => exact .inl ⟨rfl, (Except.ok.inj read).symm⟩
  | some value =>
    obtain ⟨content, readContent, rfl⟩ := exists_of_map_eq_ok read
    exact .inr ⟨value, content, rfl, readContent, rfl⟩

/-- A field that may be null was absent, null or a value of its type. -/
inductive Given (decode : Decoder α) : Option Value → Option (Option α) → Prop
  | absent : Given decode none none
  | null : Given decode (some .null) (some none)
  | value {value : Value} {found : α} (proper : value ≠ .null) (read : decode value = .ok found) :
    Given decode (some value) (some (some found))

/-- What is read of a field that may be null says how it was given. -/
theorem given_of_optional {decode : Decoder α} {field : Option Value} {found : Option (Option α)}
    (read : optional (nullable decode) field = .ok found) : Given decode field found := by
  rcases cases_of_optional read with ⟨rfl, rfl⟩ | ⟨value, inner, rfl, readValue, rfl⟩
  · exact .absent
  · by_cases isNull : value = .null
    · subst isNull
      obtain rfl := Except.ok.inj readValue
      exact .null
    · rw [nullable_of_ne_null decode isNull] at readValue
      obtain ⟨content, readContent, rfl⟩ := exists_of_map_eq_ok readValue
      exact .value isNull readContent

/-- A text is read from a text. -/
theorem text?_of_text {value : Value} {found : String} (read : text value = .ok found) :
    value.text? = some found := by
  cases value with
  | text content => exact congrArg some (Except.ok.inj read)
  | _ => contradiction

/-- The text of a field that may be null is that of what was given. -/
theorem Given.text {field : Option Value} {found : Option (Option String)}
    (given : Given text field found) : found.join = field.bind Value.text? := by
  cases given with
  | absent => rfl
  | null => rfl
  | value proper read => exact (text?_of_text read).symm

/-- A number of 64 bits is read from an integer that is not negative. -/
theorem count?_of_word64 {value : Value} {found : UInt64} (read : word64 value = .ok found) :
    value.count? = some found.toNat := by
  obtain ⟨number, readBelow, rfl⟩ := exists_of_map_eq_ok read
  cases value with
  | int written =>
    rw [below] at readBelow
    split at readBelow
    · next bounded =>
      obtain rfl := Except.ok.inj readBelow
      obtain ⟨n, rfl⟩ := Int.eq_ofNat_of_zero_le bounded.1
      have fits : n < UInt64.size := by
        have upper := bounded.2
        change (n : Int) < 18446744073709551616 at upper
        change n < 18446744073709551616
        omega
      exact congrArg some (UInt64.toNat_ofNat_of_lt' fits).symm
    · contradiction
  | _ => contradiction

/-- The count of a field that may be null is that of what was given. -/
theorem Given.word64 {field : Option Value} {found : Option (Option UInt64)}
    (given : Given word64 field found) :
    found.join.map UInt64.toNat = field.bind Value.count? := by
  cases given with
  | absent => rfl
  | null => rfl
  | value proper read => exact (count?_of_word64 read).symm

/-- The items of a list are read one by one. -/
theorem forall₂_of_items {decode : Decoder α} {values : List Value} {found : List α}
    (read : items decode values = .ok found) :
    List.Forall₂ (fun value item => decode value = .ok item) values found := by
  induction values generalizing found with
  | nil =>
    obtain rfl := Except.ok.inj read
    exact .nil
  | cons value rest ih =>
    obtain ⟨first, readFirst, more⟩ := exists_of_bind_eq_ok read
    obtain ⟨later, readLater, same⟩ := exists_of_bind_eq_ok more
    obtain rfl := Except.ok.inj same
    exact .cons readFirst (ih readLater)

/-- A decoded list was a list, of which each item was read. -/
theorem forall₂_of_list {decode : Decoder α} {value : Value} {found : List α}
    (read : list decode value = .ok found) :
    List.Forall₂ (fun value item => decode value = .ok item) value.items found := by
  cases value with
  | list values => exact forall₂_of_items read
  | _ => contradiction

end Decode

end Assay.Json
