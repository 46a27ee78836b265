import Assay.Domain.Composition
import Assay.Domain.JoiningTable

/-!
# Joiners in names

Two characters without a shape say how their neighbours join. A name may hold them only where they
make a difference: after a mark that takes away the vowel of its letter, or, the one that keeps
letters apart, also between letters that would join without it.
-/
namespace Assay.Domain

open Text

/-- The character that keeps letters apart. -/
def nonJoiner : Char := Char.ofNat 0x200C

/-- The character that joins letters. -/
def joiner : Char := Char.ofNat 0x200D

/-- The class of marks that take away the vowel of their letter. -/
def viramaClass : Nat := 9

/-- Whether the first of some characters that joining does not pass over is of a class. -/
def meets (table : Table) : List Char → Bool
  | [] => false
  | c :: text =>
    table.holds c.toNat || (passedTable.holds c.toNat && meets table text)

/-- Whether the joiners of a text may stand where they do. `before` is what comes before the text,
the latest first. -/
def joinersFit (before : List Char) : List Char → Bool
  | [] => true
  | c :: text =>
    let afterVirama := before.head?.any fun b => classOf b.toNat == viramaClass
    let fits :=
      if c = nonJoiner then afterVirama || (meets leadingTable before && meets trailingTable text)
      else if c = joiner then afterVirama
      else true
    fits && joinersFit (c :: before) text

end Assay.Domain
