/-!
# Digits of other bases

Digits up to sixteen and the numbers that they name. Letters count in either case.
-/
namespace Assay.Number

/-- The value of a hexadecimal digit. -/
def hexDigit? (c : Char) : Option Nat :=
  if '0' ≤ c ∧ c ≤ '9' then some (c.toNat - 48)
  else if 'a' ≤ c ∧ c ≤ 'f' then some (c.toNat - 87)
  else if 'A' ≤ c ∧ c ≤ 'F' then some (c.toNat - 55)
  else none

/-- The value of a digit of a base up to sixteen. -/
def digit? (base : Nat) (c : Char) : Option Nat := (hexDigit? c).filter (· < base)

/-- A hexadecimal digit is read as what it stands for. -/
theorem hexDigit?_digitChar_lower {n : Nat} (small : n < 16) :
    hexDigit? (Nat.digitChar n) = some n := by
  revert n
  decide

/-- The number that digits of a base up to sixteen name. -/
def ofBase? (base : Nat) (digits : List Char) : Option Nat :=
  digits.foldlM (fun n c => (digit? base c).map (base * n + ·)) 0

end Assay.Number
