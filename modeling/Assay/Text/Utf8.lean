/-!
# Bytes of text

A text is stored as the UTF-8 encodings of its characters, one after the other. Reading bytes
never fails: each longest sequence that starts an encoding and does not complete it, and each
byte that can start none, becomes one replacement character. A byte order mark at the front
says which encoding follows and is not part of the text.
-/
namespace Assay.Text

/-- What stands for bytes that encode no character. -/
def replacement : Char := Char.ofNat 0xFFFD

/-- The UTF-8 encoding of a text. -/
def utf8 (text : List Char) : List UInt8 :=
  text.flatMap String.utf8EncodeChar

/-- An encoding that has begun: how many bytes it still needs, the bits read so far, and the
bounds of its next byte. -/
structure Pending where
  needed : Nat
  bits : Nat
  low : Nat
  high : Nat

/-- A byte at the start of an encoding: a whole character, the start of a longer one, or no
start at all. -/
def beginChar (byte : Nat) : List Char × Option Pending :=
  if byte < 0x80 then ([Char.ofNat byte], none)
  else if 0xC2 ≤ byte && byte ≤ 0xDF then ([], some ⟨1, byte % 32, 0x80, 0xBF⟩)
  else if 0xE0 ≤ byte && byte ≤ 0xEF then
    ([], some ⟨2, byte % 16, if byte = 0xE0 then 0xA0 else 0x80,
      if byte = 0xED then 0x9F else 0xBF⟩)
  else if 0xF0 ≤ byte && byte ≤ 0xF4 then
    ([], some ⟨3, byte % 8, if byte = 0xF0 then 0x90 else 0x80,
      if byte = 0xF4 then 0x8F else 0xBF⟩)
  else ([replacement], none)

/-- One more byte: the characters it completes and the encoding that it leaves open. -/
def continueChar : Option Pending → Nat → List Char × Option Pending
  | none, byte => beginChar byte
  | some pending, byte =>
    if pending.low ≤ byte && byte ≤ pending.high then
      let bits := pending.bits * 64 + byte % 64
      if pending.needed ≤ 1 then ([Char.ofNat bits], none)
      else ([], some ⟨pending.needed - 1, bits, 0x80, 0xBF⟩)
    else
      let (chars, opened) := beginChar byte
      (replacement :: chars, opened)

/-- Read UTF-8 bytes after an encoding that has begun. -/
def ofUtf8From : Option Pending → List UInt8 → List Char
  | none, [] => []
  | some _, [] => [replacement]
  | pending, byte :: bytes =>
    let (chars, opened) := continueChar pending byte.toNat
    chars ++ ofUtf8From opened bytes

/-- Read bytes as UTF-8. -/
def ofUtf8 (bytes : List UInt8) : List Char :=
  ofUtf8From none bytes

/-- The sixteen-bit units of a byte sequence, high byte first or last, and `none` for a byte
left over. -/
def units16 (highFirst : Bool) : List UInt8 → List (Option Nat)
  | [] => []
  | [_] => [none]
  | a :: b :: bytes =>
    some (if highFirst then a.toNat * 256 + b.toNat else b.toNat * 256 + a.toNat) ::
      units16 highFirst bytes

/-- Read UTF-16 units, where `lead` is a leading surrogate that waits for its partner. -/
def ofUnits16 : (lead : Option Nat) → List (Option Nat) → List Char
  | none, [] => []
  | some _, [] => [replacement]
  | lead, unit :: units =>
    match lead, unit with
    | some high, some low =>
      if 0xDC00 ≤ low && low < 0xE000 then
        Char.ofNat ((high - 0xD800) * 1024 + (low - 0xDC00) + 0x10000) :: ofUnits16 none units
      else if 0xD800 ≤ low && low < 0xDC00 then replacement :: ofUnits16 (some low) units
      else replacement :: Char.ofNat low :: ofUnits16 none units
    | none, some n =>
      if 0xD800 ≤ n && n < 0xDC00 then ofUnits16 (some n) units
      else if 0xDC00 ≤ n && n < 0xE000 then replacement :: ofUnits16 none units
      else Char.ofNat n :: ofUnits16 none units
    | _, none => replacement :: ofUnits16 none units

/-- Read bytes in the encoding that their byte order mark names, and in UTF-8 without one. -/
def ofBytes : List UInt8 → List Char
  | 0xEF :: 0xBB :: 0xBF :: bytes => ofUtf8 bytes
  | 0xFE :: 0xFF :: bytes => ofUnits16 none (units16 true bytes)
  | 0xFF :: 0xFE :: bytes => ofUnits16 none (units16 false bytes)
  | bytes => ofUtf8 bytes

end Assay.Text
