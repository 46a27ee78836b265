import Assay.Number.Bound
import Assay.Number.Rounding

/-!
# Floats as exact numbers

A finite float is a significand times a power of two. `read` takes a float apart, and `nearest`
is the float nearest to a ratio of naturals, with ties to the even significand and infinity past
the largest float. Both work on the 64 bits of a float with exact naturals.
-/
namespace Assay.Number

/-- What the bits of a float stand for. -/
inductive Reading where
  | notANumber
  | infinite (negative : Bool)
  /-- The number `significand * 2 ^ exponent`, with a sign that zero has too. -/
  | finite (negative : Bool) (significand : Nat) (exponent : Int)
deriving DecidableEq

/-- The leading bit of a significand, which is not stored. -/
def leadingBit : Nat := 4503599627370496

/-- Take a float apart. -/
def read (x : Float) : Reading :=
  let bits : Nat := x.toBits.toNat
  let negative := word64Bound ≤ 2 * bits
  let field : Nat := bits / leadingBit % 2048
  let fraction : Nat := bits % leadingBit
  if field = 2047 then
    if fraction = 0 then .infinite negative else .notANumber
  else if field = 0 then .finite negative fraction (-1074)
  else .finite negative (leadingBit + fraction) ((field : Int) - 1075)

/-- Numerator and denominator of `significand * 2 ^ exponent`. -/
def ratio (significand : Nat) (exponent : Int) : Nat × Nat :=
  (significand * Nat.pow 2 exponent.toNat, Nat.pow 2 (-exponent).toNat)

/-- The bits of positive infinity, one more than those of the largest float. -/
def infinityBits : Nat := 2047 * leadingBit

/-- The float nearest to `num / den`. The exponent is the one that leaves a quotient of 53 bits,
unless that is below the least exponent; the bits of a float count the floats up to it, so a
quotient that rounds up to a power of two needs no care. -/
def nearest (num den : Nat) : Float :=
  if num = 0 then Float.ofBits 0
  else
    let guess : Int := max ((num.log2 : Int) - (den.log2 : Int) - 53) (-1074)
    let top := num * Nat.pow 2 (-guess).toNat
    let bottom := den * Nat.pow 2 guess.toNat
    let exact := top / bottom < 2 * leadingBit
    let exponent := if exact then guess else guess + 1
    let quotient := roundEven top (if exact then bottom else 2 * bottom)
    Float.ofBits (UInt64.ofNat (min ((exponent + 1074).toNat * leadingBit + quotient) infinityBits))

/-- Positive infinity. -/
def infinity : Float := Float.ofBits (UInt64.ofNat infinityBits)

end Assay.Number
