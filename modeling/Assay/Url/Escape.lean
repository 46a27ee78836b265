import Assay.Number.Radix
import Assay.Text.Utf8

/-!
# Escapes in addresses

A character that may not stand in a part of an address is written as its bytes, each as a percent
sign with two hexadecimal digits. Which characters these are depends on the part; those that are
not printable ASCII are always among them.
-/
namespace Assay.Url

open Text

/-- A byte as a percent escape. -/
def escape (byte : UInt8) : List Char :=
  let digit := fun n => (Nat.digitChar n).toUpper
  ['%', digit (byte.toNat / 16), digit (byte.toNat % 16)]

/-- A text in which the characters of a class, and all that are not printable ASCII, are percent
escapes. -/
def escapeAll (mustEscape : Char → Bool) (text : List Char) : List Char :=
  text.flatMap fun c =>
    if mustEscape c || c.toNat < 32 || 126 < c.toNat then (utf8 [c]).flatMap escape else [c]

/-- The bytes of a text, where a percent escape is the byte that it names. -/
def unescape : List Char → List UInt8
  | [] => []
  | '%' :: high :: low :: text =>
    match Number.hexDigit? high, Number.hexDigit? low with
    | some high, some low => UInt8.ofNat (16 * high + low) :: unescape text
    | _, _ => utf8 ['%'] ++ unescape (high :: low :: text)
  | c :: text => utf8 [c] ++ unescape text

/-- Whether what is escaped in a text makes it no text. -/
def isGarbled (text : List Char) : Bool :=
  utf8 (ofUtf8 (unescape text)) != unescape text

/-- A character that a fragment may not hold as it is. -/
def outsideFragment (c : Char) : Bool :=
  c ∈ [' ', '"', '<', '>', '\x60']

/-- A character that a path may not hold as it is. -/
def outsidePath (c : Char) : Bool :=
  outsideFragment c || c ∈ ['#', '?', '\x7b', '\x7d']

/-- A character that a user or a password may not hold as it is. -/
def outsideUser (c : Char) : Bool :=
  outsidePath c || c ∈ ['/', ':', ';', '=', '@', '[', '\\', ']', '^', '|']

/-- A character that a query may not hold as it is. -/
def outsideQuery (c : Char) : Bool :=
  c ∈ [' ', '"', '#', '<', '>']

/-- A character that the query of an address with a usual scheme may not hold as it is. -/
def outsideUsualQuery (c : Char) : Bool :=
  outsideQuery c || c = '\x27'

end Assay.Url
