import Assay.Text.HiddenTable

/-!
# Quoted text in messages

A text quoted in a message stands between double quotes. A quote, a backslash and the common
control characters are written with a backslash, and a character without a shape of its own as
its number in braces.
-/
namespace Assay.Text

/-- A character that quoted text names by number. -/
def isHidden (c : Char) : Bool :=
  hiddenTable.holds c.toNat

/-- The lower-case hexadecimal digits of a number. -/
def hex (n : Nat) : List Char :=
  Nat.toDigits 16 n

/-- A character as it stands in quoted text. -/
def quotedChar (c : Char) : List Char :=
  match c with
  | '\x00' => ['\\', '0']
  | '\t' => ['\\', 't']
  | '\r' => ['\\', 'r']
  | '\n' => ['\\', 'n']
  | '"' => ['\\', '"']
  | '\\' => ['\\', '\\']
  | c => if isHidden c then ['\\', 'u', '\x7b'] ++ hex c.toNat ++ ['\x7d'] else [c]

/-- A text between double quotes, with the characters that need it escaped. -/
def quoted (text : List Char) : List Char :=
  '"' :: text.flatMap quotedChar ++ ['"']

end Assay.Text
