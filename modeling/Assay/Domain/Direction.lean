import Assay.Domain.DirectionTable

/-!
# Directions of names

Where a part of a name is written from right to left, the parts of the name could show in another
order than they have. This cannot happen when each part has one direction: it starts with a letter
of that direction, ends with such a letter or a digit, and holds no letter of the other one.
-/
namespace Assay.Domain

open Text

/-- How a character is written. -/
inductive Direction where
  | leftToRight
  | rightToLeft
  | arabicDigit
  | europeanDigit
  /-- As the character before it. -/
  | following
  | neutral
deriving DecidableEq

/-- How a character is written. -/
def Direction.of (c : Char) : Direction :=
  let n := c.toNat
  if leftToRightTable.holds n then .leftToRight
  else if rightToLeftTable.holds n then .rightToLeft
  else if arabicDigitTable.holds n then .arabicDigit
  else if europeanDigitTable.holds n then .europeanDigit
  else if followingTable.holds n then .following
  else .neutral

/-- Whether a character makes a name one that is written from right to left in part. -/
def isRightToLeft (c : Char) : Bool :=
  Direction.of c = .rightToLeft || Direction.of c = .arabicDigit

/-- Whether a part of a name has one direction. -/
def hasOneDirection (label : List Char) : Bool :=
  let directions := label.map Direction.of
  let last := (directions.reverse.dropWhile (· = .following)).head?
  match directions with
  | [] => true
  | .leftToRight :: _ =>
    directions.all (fun d => d ≠ .rightToLeft && d ≠ .arabicDigit) &&
      (last = some .leftToRight || last = some .europeanDigit)
  | .rightToLeft :: _ =>
    directions.all (· ≠ .leftToRight) &&
      !(directions.contains .arabicDigit && directions.contains .europeanDigit) &&
      last ≠ some .neutral
  | _ => false

end Assay.Domain
