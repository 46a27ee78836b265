import Assay.Json.Numeral
import Assay.Text.Quoted

/-!
# Writing JSON text

`compact` writes a value without blanks and `pretty` with one item or member on a line. Texts are
written with a backslash before quotes and backslashes and with escapes for control characters,
so written text holds no line break of its own.
-/
namespace Assay.Json

/-- A character inside a written text. -/
def writeChar (c : Char) : List Char :=
  match c with
  | '"' => ['\\', '"']
  | '\\' => ['\\', '\\']
  | '\x08' => ['\\', 'b']
  | '\x0c' => ['\\', 'f']
  | '\n' => ['\\', 'n']
  | '\r' => ['\\', 'r']
  | '\t' => ['\\', 't']
  | c =>
    if c.toNat < 32 then
      ['\\', 'u', '0', '0', Nat.digitChar (c.toNat / 16), Nat.digitChar (c.toNat % 16)]
    else [c]

/-- A text between quotes. -/
def writeText (content : String) : List Char :=
  '"' :: content.toList.flatMap writeChar ++ ['"']

/-- The text of a boolean. -/
def writeBool : Bool → List Char
  | true => ['t', 'r', 'u', 'e']
  | false => ['f', 'a', 'l', 's', 'e']

mutual

/-- A value without blanks. -/
def writeValue : Value → List Char
  | .null => ['n', 'u', 'l', 'l']
  | .bool truth => writeBool truth
  | .int number => writeInt number
  | .real number => writeReal number
  | .text content => writeText content
  | .list [] => ['[', ']']
  | .list (item :: items) => '[' :: writeValue item ++ writeItems items
  | .object [] => ['\x7b', '\x7d']
  | .object ((name, value) :: members) =>
    '\x7b' :: writeText name ++ ':' :: writeValue value ++ writeMembers members

/-- The items of a list after its first one, and the closing bracket. -/
def writeItems : List Value → List Char
  | [] => [']']
  | item :: items => ',' :: writeValue item ++ writeItems items

/-- The members of an object after its first one, and the closing brace. -/
def writeMembers : List (String × Value) → List Char
  | [] => ['\x7d']
  | (name, value) :: members =>
    ',' :: writeText name ++ ':' :: writeValue value ++ writeMembers members

end

/-- A line break and the indentation of a depth. -/
def newline (depth : Nat) : List Char :=
  '\n' :: List.replicate (2 * depth) ' '

mutual

/-- A value with its items and members on lines of their own. -/
def layValue (depth : Nat) : Value → List Char
  | .null => ['n', 'u', 'l', 'l']
  | .bool truth => writeBool truth
  | .int number => writeInt number
  | .real number => writeReal number
  | .text content => writeText content
  | .list [] => ['[', ']']
  | .list (item :: items) =>
    '[' :: newline (depth + 1) ++ layValue (depth + 1) item ++ layItems depth items
  | .object [] => ['\x7b', '\x7d']
  | .object ((name, value) :: members) =>
    '\x7b' :: newline (depth + 1) ++ writeText name ++ ':' :: ' ' ::
      layValue (depth + 1) value ++ layMembers depth members

/-- The items of a list after its first one, and the closing bracket. -/
def layItems (depth : Nat) : List Value → List Char
  | [] => newline depth ++ [']']
  | item :: items =>
    ',' :: newline (depth + 1) ++ layValue (depth + 1) item ++ layItems depth items

/-- The members of an object after its first one, and the closing brace. -/
def layMembers (depth : Nat) : List (String × Value) → List Char
  | [] => newline depth ++ ['\x7d']
  | (name, value) :: members =>
    ',' :: newline (depth + 1) ++ writeText name ++ ':' :: ' ' ::
      layValue (depth + 1) value ++ layMembers depth members

end

/-- The text of a value without blanks. -/
def compact (value : Value) : String := String.ofList (writeValue value)

/-- The text of a value with one item or member on a line. -/
def pretty (value : Value) : String := String.ofList (layValue 0 value)

end Assay.Json
