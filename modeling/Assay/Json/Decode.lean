import Assay.Json.Numeral
import Assay.Text.Quoted

/-!
# Reading domain values out of JSON

A decoder turns a JSON value into a value of another type or names the mismatch. A record is
written as an object or as a list of its fields in their declared order. Of an object the fields
are read in the order of their names, so the first bad field by name is reported, and only then
the first missing field; members that the record does not declare are never read.
-/
namespace Assay.Json

/-- What stands where something else was expected. -/
inductive Found where
  | null
  | bool (truth : Bool)
  | int (number : Int)
  | real (number : Float)
  | text (content : String)
  | list
  | object
deriving DecidableEq

/-- What a value is, without the items and members it holds. -/
def Value.found : Value → Found
  | .null => .null
  | .bool truth => .bool truth
  | .int number => .int number
  | .real number => .real number
  | .text content => .text content
  | .list _ => .list
  | .object _ => .object

/-- The wording of what was found. -/
def Found.message : Found → String
  | .null => "null"
  | .bool truth => "boolean `" ++ (if truth then "true" else "false") ++ "`"
  | .int number => "integer `" ++ String.ofList (writeInt number) ++ "`"
  | .real number => "floating point `" ++ String.ofList (writeReal number) ++ "`"
  | .text content => "string " ++ String.ofList (Text.quoted content.toList)
  | .list => "sequence"
  | .object => "map"

/-- Why a JSON value does not stand for a value of the expected type. -/
inductive Mismatch where
  | wrongType (found : Found) (expected : String)
  | outOfRange (number : Int) (expected : String)
  /-- A variant was written as an object that does not have exactly one member. -/
  | notOneMember
  | missing (field : String)
  | unknownVariant (name : String) (choices : List String)
  /-- The value fits none of the forms of a type. -/
  | noForm (type : String)
  /-- A list ends before the record it stands for does. -/
  | tooFew (size : Nat) (record : String) (fields : Nat)
  /-- A list goes on after the record it stands for. -/
  | tooMany (size : Nat)
  /-- The same, where the number of fields is told. -/
  | tooManyFor (size fields : Nat)
deriving DecidableEq

/-- A number of elements in words. -/
def elements (count : Nat) : String :=
  if count = 1 then "1 element" else toString count ++ " elements"

/-- The wording of a mismatch. -/
def Mismatch.message : Mismatch → String
  | .wrongType found expected => "invalid type: " ++ found.message ++ ", expected " ++ expected
  | .outOfRange number expected =>
    "invalid value: " ++ (Found.int number).message ++ ", expected " ++ expected
  | .notOneMember => "invalid value: map, expected map with a single key"
  | .missing field => "missing field `" ++ field ++ "`"
  | .unknownVariant name choices =>
    "unknown variant `" ++ name ++ "`, expected one of " ++
      ", ".intercalate (choices.map fun choice => "`" ++ choice ++ "`")
  | .noForm type => "data did not match any variant of untagged enum " ++ type
  | .tooFew size record fields =>
    "invalid length " ++ toString size ++ ", expected " ++ record ++ " with " ++ elements fields
  | .tooMany size =>
    "invalid length " ++ toString size ++ ", expected fewer elements in array"
  | .tooManyFor size fields =>
    "invalid length " ++ toString size ++ ", expected " ++ elements fields ++ " in sequence"

/-- A reader of values of one type. -/
abbrev Decoder (α : Type) := Value → Except Mismatch α

namespace Decode

/-- The mismatch of a value that is of another type than expected. -/
def refuse {α : Type} (expected : String) (value : Value) : Except Mismatch α :=
  .error (.wrongType value.found expected)

/-- A text. -/
def text : Decoder String
  | .text content => .ok content
  | value => refuse "a string" value

/-- Any value. -/
def any : Decoder Value := .ok

/-- The members of an object. -/
def members : Decoder Members
  | .object members => .ok members
  | value => refuse "a map" value

/-- A float, also from an integer, which is rounded to the nearest float. -/
def float : Decoder Float
  | .real number => .ok number
  | .int (.ofNat n) => .ok (UInt64.ofNat n).toFloat
  | .int (.negSucc n) => .ok (-(UInt64.ofNat (n + 1)).toFloat)
  | value => refuse "f64" value

/-- A natural below a bound. -/
def below (bound : Nat) (name : String) : Decoder Nat
  | .int number =>
    if 0 ≤ number ∧ number < bound then .ok number.toNat else .error (.outOfRange number name)
  | value => refuse name value

/-- A natural of 32 bits. -/
def word32 : Decoder UInt32 := fun value => (below Number.word32Bound "u32" value).map UInt32.ofNat

/-- A natural of 64 bits. -/
def word64 : Decoder UInt64 := fun value => (below Number.word64Bound "u64" value).map UInt64.ofNat

/-- Null or a value of the given type. -/
def nullable {α : Type} (decode : Decoder α) : Decoder (Option α)
  | .null => .ok none
  | value => (decode value).map some

/-- What is not null is read as a value of the type. -/
theorem nullable_of_ne_null {α : Type} (decode : Decoder α) {value : Value}
    (proper : value ≠ .null) : nullable decode value = (decode value).map some := by
  unfold nullable
  split
  · contradiction
  · rfl

/-- The items of a list one after the other, up to the first mismatch. -/
def items {α : Type} (decode : Decoder α) : List Value → Except Mismatch (List α)
  | [] => .ok []
  | item :: rest => do
    let first ← decode item
    let later ← items decode rest
    .ok (first :: later)

/-- A list of values of the given type. -/
def list {α : Type} (decode : Decoder α) : Decoder (List α)
  | .list values => items decode values
  | value => refuse "a sequence" value

/-- A field that a record has to have. -/
def required {α : Type} (field : String) : Option α → Except Mismatch α
  | some value => .ok value
  | none => .error (.missing field)

end Decode

/-- A field of an object, if it is there. -/
def Members.field? {α : Type} (members : Members) (name : String) (decode : Decoder α) :
    Except Mismatch (Option α) :=
  match members.get? name with
  | some value => (decode value).map some
  | none => .ok none

/-- A record written as a list of its fields. -/
structure Row where
  /-- The name of the record in messages. -/
  record : String
  /-- How many fields the record has. -/
  fields : Nat
  /-- Whether a list that is too long is reported with the number of fields. -/
  tellsFields : Bool
  items : List Value

namespace Row

/-- The field at a place, if the list reaches it. -/
def item? {α : Type} (row : Row) (place : Nat) (decode : Decoder α) :
    Except Mismatch (Option α) :=
  match row.items[place]? with
  | some value => (decode value).map some
  | none => .ok none

/-- The field at a place that the list has to reach. -/
def item {α : Type} (row : Row) (place : Nat) (decode : Decoder α) : Except Mismatch α :=
  match row.items[place]? with
  | some value => decode value
  | none => .error (.tooFew row.items.length row.record row.fields)

/-- The list ends with the record. -/
def ends (row : Row) : Except Mismatch Unit :=
  if row.items.length ≤ row.fields then .ok ()
  else if row.tellsFields then .error (.tooManyFor row.items.length row.fields)
  else .error (.tooMany row.items.length)

end Row

/-- A record, from the members of an object or from a list of its fields, which ends with the
record. -/
def Decode.record {α : Type} (name : String) (fields : Nat) (tellsFields : Bool)
    (ofMembers : Members → Except Mismatch α) (ofRow : Row → Except Mismatch α) : Decoder α
  | .object members => ofMembers members
  | .list items => do
    let row : Row := ⟨name, fields, tellsFields, items⟩
    let value ← ofRow row
    row.ends
    .ok value
  | value => refuse name value

end Assay.Json
