import Assay.Domain.Direction
import Assay.Domain.Joining
import Assay.Domain.Letters
import Assay.Domain.Punycode

/-!
# Domain names

A domain name in any script stands for one in ASCII. The name is read letter by letter, letters
and marks are composed, and each label between points that is not in ASCII is encoded, behind a
prefix that says so. A label that has the prefix already has to be the encoding of one that is
read as itself.
-/
namespace Assay.Domain

open Text

/-- What stands before a label that is encoded. -/
def encodedPrefix : List Char := ['x', 'n', '-', '-']

/-- The most characters of an encoding. -/
def longestEncoding : Nat := 2000

/-- The most characters of a label that is encoded. -/
def longestLabel : Nat := 1000

/-- A label as it is read, and in ASCII. -/
structure Label where
  letters : List Char
  ascii : List Char

/-- Whether a label that is not in ASCII is one that a name may have. -/
def isSound (letters : List Char) : Bool :=
  !letters.head?.any isMark && joinersFit [] letters

/-- The label that a text is, which has been read and composed. -/
def Label.ofText? (text : List Char) : Option Label :=
  match after? encodedPrefix text with
  | some code => do
    if longestEncoding < code.length then none
    let letters ← Punycode.decode? code
    if letters.all isAscii || (after? encodedPrefix letters).isSome then none
    else if letters.all isPlain && composed letters == letters && isSound letters then
      some ⟨letters, text⟩
    else none
  | none =>
    if text.all isAscii then some ⟨text, text⟩
    else if text.length ≤ longestLabel && isSound text then
      some ⟨text, encodedPrefix ++ Punycode.encode text⟩
    else none

/-- A character that no name in ASCII holds. -/
def isForbidden (c : Char) : Bool :=
  c.toNat ≤ 32 || 126 < c.toNat ||
    c ∈ ['#', '%', '/', ':', '<', '>', '?', '@', '[', '\\', ']', '^', '|']

/-- The name in ASCII that a name stands for. -/
def toAscii? (name : List Char) : Option (List Char) := do
  let readings ← name.mapM read?
  let labels ← (cut (· = '.') (composed readings.flatten)).mapM Label.ofText?
  let ascii := ['.'].intercalate (labels.map Label.ascii)
  if ascii.any isForbidden then none
  else if labels.any (fun label => label.letters.any isRightToLeft) &&
      !labels.all (fun label => hasOneDirection label.letters) then none
  else some ascii

end Assay.Domain
