import Assay.Domain.LetterTable

/-!
# Letters of names

A name is read without regard to the case of its letters, to their width and to characters that
have no shape. Characters that stand for others are read as those, and some stand in no name.
-/
namespace Assay.Domain

open Text

/-- Whether a character is one of ASCII. -/
def isAscii (c : Char) : Bool := c.toNat < 128

/-- What a code point is read as by rows of a first one, a last one, a distance and a reading. -/
def shifted? (n : Nat) : List Nat → Option Nat
  | first :: last :: step :: reading :: rows =>
    if first ≤ n && n ≤ last && (n - first) % step == 0 then some (reading + (n - first))
    else shifted? n rows
  | _ => none

/-- What a code point is read as by rows of one and its reading. -/
def single? (n : Nat) : List Nat → Option Nat
  | source :: reading :: rows => if source = n then some reading else single? n rows
  | _ => none

/-- What a code point is read as by rows of one, a number and as many readings, of which `passed`
numbers are still to be passed over. -/
def spelled? (n : Nat) : (passed : Nat) → List Nat → Option (List Nat)
  | _, [] => none
  | passed + 1, _ :: rows => spelled? n passed rows
  | 0, source :: rows =>
    if source = n then some ((rows.drop 1).take (rows.headD 0))
    else spelled? n (rows.headD 0 + 1) rows

/-- What a character of a name is read as, if a name may hold it. -/
def read? (c : Char) : Option (List Char) :=
  let n := c.toNat
  if isAscii c then some [c.toLower]
  else if refusedTable.holds n then none
  else if ignoredTable.holds n then some []
  else match (shifted? n shiftedRows).or (single? n singleRows) with
    | some reading => some [Char.ofNat reading]
    | none =>
      match spelled? n 0 spelledRows with
      | some readings => some (readings.map Char.ofNat)
      | none => some [c]

/-- Whether a character is read as itself. -/
def isPlain (c : Char) : Bool := read? c == some [c]

end Assay.Domain
