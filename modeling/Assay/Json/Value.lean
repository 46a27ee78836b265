/-!
# JSON values

A JSON value, with the members of an object as a list. `get?` and `insert` read and write one
member; an insertion keeps the order of names and replaces a member of the same name, so an object
built by insertions, as every object that is read, has its names in order and each of them once.
`Ordered` states that order. An object that is only written may have its members in another one.
-/
namespace Assay.Json

/-- A JSON value. A number is an integer or a float by how it is written. -/
inductive Value where
  | null
  | bool (truth : Bool)
  | int (number : Int)
  | real (number : Float)
  | text (content : String)
  | list (items : List Value)
  | object (members : List (String × Value))

/-- The members of an object. -/
abbrev Members := List (String × Value)

namespace Members

/-- The value of the first member with a name. -/
def get? (name : String) : Members → Option Value
  | [] => none
  | (key, value) :: rest => if key = name then some value else get? name rest

/-- The members with one more, which takes the place of a member of the same name. -/
def insert (name : String) (value : Value) : Members → Members
  | [] => [(name, value)]
  | (key, old) :: rest =>
    if name = key then (name, value) :: rest
    else if name < key then (name, value) :: (key, old) :: rest
    else (key, old) :: insert name value rest

/-- Insert members one after the other. -/
def insertAll (members : Members) (more : List (String × Value)) : Members :=
  more.foldl (fun members (name, value) => members.insert name value) members

/-- The members that are present, of a list of named fields. -/
def present (fields : List (String × Option Value)) : Members :=
  fields.filterMap fun (name, value?) => value?.map fun value => (name, value)

/-- A member is found under its own name after it is inserted, and every other name keeps what
it had. -/
theorem get?_insert (members : Members) (name other : String) (value : Value) :
    (members.insert name value).get? other =
      if name = other then some value else members.get? other := by
  induction members with
  | nil => simp [insert, get?]
  | cons member rest ih =>
    obtain ⟨key, old⟩ := member
    simp only [insert]
    split
    · next same =>
      subst same
      simp only [get?]
      split <;> simp_all
    · next differs =>
      split
      · simp only [get?]
      · simp only [get?, ih]
        by_cases here : key = other
        · have : name ≠ other := fun h => differs (h.trans here.symm)
          simp [here, this]
        · simp [here]

/-- Names in strictly increasing order. -/
def Ordered (members : Members) : Prop :=
  members.Pairwise fun first second => first.1 < second.1

end Members

namespace Value

/-- A natural as a JSON number. -/
def nat (n : Nat) : Value := .int n

/-- A float as a JSON number; what is not finite has none and is null. -/
def float (x : Float) : Value := if x.isFinite then .real x else .null

/-- A list of texts. -/
def texts (items : List String) : Value := .list (items.map .text)

/-- An object with the given members, of which the last of one name counts. -/
def ofMembers (members : List (String × Value)) : Value :=
  .object (Members.insertAll [] members)

/-- An object with those of the given fields that are present. -/
def ofFields (fields : List (String × Option Value)) : Value :=
  .object (Members.present fields)

end Value
end Assay.Json
