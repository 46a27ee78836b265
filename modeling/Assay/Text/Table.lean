/-!
# Tables of character classes

A class of characters is stored as the increasing list of code points at which membership
changes, starting outside the class. Membership of a code point is then the parity of the
number of entries that are not above it.
-/
namespace Assay.Text

/-- The code points at which a class of characters starts and stops, in increasing order. -/
abbrev Table := List Nat

/-- Whether a code point belongs to the class. -/
def Table.holds : Table → Nat → Bool
  | [], _ => false
  | bound :: later, n => if n < bound then false else !Table.holds later n

end Assay.Text
