/-!
# Bounds of words

How many naturals a word of a given size can name. Numbers that are kept in words are read as
naturals below such a bound.
-/
namespace Assay.Number

/-- How many numbers 32 bits can name. -/
def word32Bound : Nat := 4294967296

/-- How many numbers 64 bits can name. -/
def word64Bound : Nat := 18446744073709551616

end Assay.Number
