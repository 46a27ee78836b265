import Assay.Domain.MarkTable

/-!
# Letters with their marks

One text can be written in several ways: a letter with a mark is one character or two, and marks
on different sides of a letter may come in either order. `composed` chooses one of them. It takes
all characters apart, puts the marks of each letter in order, and then joins what can be joined,
from the letter outwards. The syllables of Hangul are joined by counting.
-/
namespace Assay.Domain

open Text

/-- Whether a character combines with the one before it. -/
def isMark (c : Char) : Bool := markTable.holds c.toNat

/-- The class of a code point by rows of one and the class from there on, where `sofar` is the
class before them. -/
def classIn (n : Nat) : (sofar : Nat) → List Nat → Nat
  | sofar, start :: kind :: rows => if n < start then sofar else classIn n kind rows
  | sofar, _ => sofar

/-- How far from its letter a mark stands, and zero for a character that stands by itself. -/
def classOf (n : Nat) : Nat := if n < 0x300 then 0 else classIn n 0 classRows

/-- The letter and the mark that a character is made of, by rows of both and the character. -/
def partsIn? (n : Nat) : List Nat → Option (Nat × Nat)
  | letter :: mark :: whole :: rows => if whole = n then some (letter, mark) else partsIn? n rows
  | _ => none

/-- The character that a letter and a mark make, by rows of both and the character. -/
def wholeIn? (letter mark : Nat) : List Nat → Option Nat
  | first :: second :: whole :: rows =>
    if first = letter && second = mark then some whole else wholeIn? letter mark rows
  | _ => none

/-- The first syllable of Hangul. -/
def firstSyllable : Nat := 0xAC00

/-- How many syllables of Hangul there are. -/
def syllableCount : Nat := 11172

/-- The first consonant at the front of a syllable, and how many there are. -/
def leads : Nat × Nat := (0x1100, 19)

/-- The first vowel of a syllable, and how many there are. -/
def vowels : Nat × Nat := (0x1161, 21)

/-- The code point before the first consonant at the end of a syllable, and how many ways to end
there are, of which one is without a consonant. -/
def tails : Nat × Nat := (0x11A7, 28)

/-- The letters of a syllable. -/
def syllableParts (n : Nat) : List Nat :=
  let place := n - firstSyllable
  let tail := place % tails.2
  let body := [leads.1 + place / tails.2 / vowels.2, vowels.1 + place / tails.2 % vowels.2]
  if tail = 0 then body else body ++ [tails.1 + tail]

/-- A code point taken apart. The fuel bounds how many marks a character has. -/
def takeApart : (fuel : Nat) → Nat → List Nat
  | 0, n => [n]
  | fuel + 1, n =>
    if n < 0xC0 then [n]
    else if firstSyllable ≤ n && n < firstSyllable + syllableCount then syllableParts n
    else match partsIn? n composedRows with
      | some (letter, mark) => takeApart fuel letter ++ [mark]
      | none => [n]

/-- The most marks that one character has. -/
def mostMarks : Nat := 3

/-- Put a code point in front of others where its class belongs. -/
def putInOrder (n : Nat) : List Nat → List Nat
  | [] => [n]
  | m :: rest =>
    if classOf n = 0 || classOf m = 0 || classOf n ≤ classOf m then n :: m :: rest
    else m :: putInOrder n rest

/-- Code points with the marks of each letter in order. -/
def inOrder (text : List Nat) : List Nat := text.foldr putInOrder []

/-- The character that a syllable so far and one more letter make. -/
def syllable? (first second : Nat) : Option Nat :=
  if leads.1 ≤ first && first < leads.1 + leads.2 &&
      vowels.1 ≤ second && second < vowels.1 + vowels.2 then
    some (firstSyllable + ((first - leads.1) * vowels.2 + (second - vowels.1)) * tails.2)
  else if firstSyllable ≤ first && first < firstSyllable + syllableCount &&
      (first - firstSyllable) % tails.2 == 0 &&
      tails.1 < second && second < tails.1 + tails.2 then
    some (first + (second - tails.1))
  else none

/-- The character that two code points make. -/
def whole? (first second : Nat) : Option Nat :=
  (syllable? first second).or (wholeIn? first second composedRows)

/-- Join a letter with what follows it. `marks` are those between them that it was not joined
with, the latest first, and `latest` is the class of the last of these, or zero. -/
def joinFrom (letter : Nat) (marks : List Nat) (latest : Nat) : List Nat → List Nat
  | [] => letter :: marks.reverse
  | n :: text =>
    let kind := classOf n
    match if latest < kind || marks.isEmpty then whole? letter n else none with
    | some whole => joinFrom whole marks latest text
    | none =>
      if kind = 0 then letter :: marks.reverse ++ joinFrom n [] 0 text
      else joinFrom letter (n :: marks) kind text

/-- Join what can be joined. -/
def join : List Nat → List Nat
  | [] => []
  | n :: text => joinFrom n [] 0 text

/-- The way to write a text that stands for all of them. -/
def composed (text : List Char) : List Char :=
  (join (inOrder (text.flatMap fun c => takeApart mostMarks c.toNat))).map Char.ofNat

end Assay.Domain
