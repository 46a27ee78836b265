import Assay.Number.Radix
import Assay.Text.Cut
import Assay.Text.Table

/-!
# Packed tables

A large table is kept as lines of hexadecimal numbers between blanks.
-/
namespace Assay.Text

/-- The numbers on lines of hexadecimal numbers. -/
def numbersOf (lines : List String) : List Nat :=
  lines.flatMap fun line => (words line.toList).map fun digits => (Number.ofBase? 16 digits).getD 0

end Assay.Text
