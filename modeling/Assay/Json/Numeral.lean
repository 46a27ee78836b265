import Assay.Json.Fault
import Assay.Json.Value
import Assay.Number.Decimal

/-!
# Numbers in JSON text

A number without point and exponent that fits in 64 bits, signed or unsigned, is an integer;
every other number, and minus zero, is a float. A float is read from the digits that fit in 64
bits, the rest counting as zeros, and is brought to its size by one multiplication or division
by a power of ten, or by several when the number is far below the least float. A number past the
largest float is a fault.

A float is written with the shortest digits that read back as it: with a point where the power
of ten of its first digit is from -5 to 15, and with an exponent elsewhere.
-/
namespace Assay.Json

open Number (isDigit ofDigits)

/-- The largest exponent that is read. -/
def exponentBound : Nat := 2147483647

/-- Add digits to a number while it fits in 64 bits; the digits from the first that does not fit
are left. -/
def absorb (number : Nat) : List Char → Nat × List Char
  | [] => (number, [])
  | c :: digits =>
    let next := 10 * number + (c.toNat - '0'.toNat)
    if next < Number.word64Bound then absorb next digits else (number, c :: digits)

/-- A power of ten as a float. -/
def tenTo (power : Nat) : Float := Number.nearest (Nat.pow 10 power) 1

/-- A float scaled by a power of ten, unless that is past the largest float. Each division by the
largest power of ten leaves fewer steps, and none are needed once zero is reached. -/
def scale (x : Float) : (fuel : Nat) → Int → Option Float
  | 0, _ => some x
  | fuel + 1, exponent =>
    if 308 < exponent then if x == 0.0 then some x else none
    else if 0 ≤ exponent then
      let scaled := x * tenTo exponent.toNat
      if scaled.isInf then none else some scaled
    else if -308 ≤ exponent then some (x / tenTo (-exponent).toNat)
    else if x == 0.0 then some x
    else scale (x / tenTo 308) fuel (exponent + 308)

/-- The float `digits * 10 ^ exponent` with a sign, if it is not too large; a fault of size is
found where the number ends. -/
def realOf (negative : Bool) (digits : Nat) (exponent : Int) (rest : List Char) :
    Except Fault (Value × List Char) :=
  match scale (UInt64.ofNat digits).toFloat 8 exponent with
  | some x => .ok (.real (if negative then -x else x), rest)
  | none => .error ⟨.outOfRange, rest, 0⟩

/-- The number that exponent digits name, or what is left after the digit at which it is past
the largest exponent. -/
def exponentOf (number : Nat) : List Char → Except (List Char) Nat
  | [] => .ok number
  | c :: digits =>
    let next := 10 * number + (c.toNat - '0'.toNat)
    if exponentBound < next then .error digits else exponentOf next digits

/-- Read an exponent after its mark, for a number with digits and an exponent so far. -/
def readExponent (negative : Bool) (digits : Nat) (exponent : Int) (text : List Char) :
    Except Fault (Value × List Char) :=
  let (down, text) := Number.sign text
  let written := text.takeWhile isDigit
  let rest := text.dropWhile isDigit
  match text with
  | [] => .error ⟨.endInValue, [], 0⟩
  | c :: _ =>
    if !isDigit c then .error ⟨.invalidNumber, text, 1⟩
    else match exponentOf 0 written with
      | .ok shift =>
        let total := if down then exponent - shift else exponent + shift
        realOf negative digits (max (min total exponentBound) (-exponentBound - 1)) rest
      | .error left =>
        if digits ≠ 0 && !down then .error ⟨.outOfRange, left ++ rest, 0⟩
        else .ok (.real (if negative then -0.0 else 0.0), rest)

/-- Read what follows the whole digits of a number, of which `dropped` did not fit. -/
def readAfterWhole (negative : Bool) (digits dropped : Nat) :
    List Char → Except Fault (Value × List Char)
  | '.' :: text =>
    let written := text.takeWhile isDigit
    let rest := text.dropWhile isDigit
    if written = [] then
      .error ⟨if rest = [] then .endInValue else .invalidNumber, rest, 1⟩
    else
      let (digits, left) := absorb digits written
      let exponent : Int := (dropped : Int) - ((written.length - left.length : Nat) : Int)
      match rest with
      | 'e' :: rest => readExponent negative digits exponent rest
      | 'E' :: rest => readExponent negative digits exponent rest
      | _ => realOf negative digits exponent rest
  | 'e' :: text => readExponent negative digits dropped text
  | 'E' :: text => readExponent negative digits dropped text
  | rest =>
    if 0 < dropped then realOf negative digits dropped rest
    else if !negative then .ok (.int digits, rest)
    else if digits = 0 || Number.word64Bound < 2 * digits then realOf true digits 0 rest
    else .ok (.int (-(digits : Int)), rest)

/-- Read a number after its sign. -/
def readNumber (negative : Bool) : List Char → Except Fault (Value × List Char)
  | [] => .error ⟨.endInValue, [], 0⟩
  | '0' :: rest =>
    match rest with
    | c :: _ =>
      if isDigit c then .error ⟨.invalidNumber, rest, 1⟩ else readAfterWhole negative 0 0 rest
    | [] => readAfterWhole negative 0 0 rest
  | c :: rest =>
    if isDigit c then
      let text := c :: rest
      let (digits, left) := absorb 0 (text.takeWhile isDigit)
      readAfterWhole negative digits left.length (text.dropWhile isDigit)
    else .error ⟨.invalidNumber, c :: rest, 1⟩

/-- The least and greatest power of ten of a first digit that is written without exponent. -/
def positional (power : Int) : Bool := -5 ≤ power && power ≤ 15

/-- The text of an integer. -/
def writeInt (n : Int) : List Char :=
  match n with
  | .ofNat n => Nat.toDigits 10 n
  | .negSucc n => '-' :: Nat.toDigits 10 (n + 1)

/-- The text of `digits * 10 ^ exponent`. -/
def writeDecimal (digits : Nat) (exponent : Int) : List Char :=
  let written := Nat.toDigits 10 digits
  let power := exponent + written.length - 1
  if positional power then
    if 0 ≤ exponent then written ++ List.replicate exponent.toNat '0' ++ ['.', '0']
    else if 0 ≤ power then
      written.take (power + 1).toNat ++ '.' :: written.drop (power + 1).toNat
    else '0' :: '.' :: List.replicate (-power - 1).toNat '0' ++ written
  else
    written.take 1 ++ (if written.length = 1 then [] else '.' :: written.drop 1) ++
      'e' :: (if power < 0 then '-' else '+') :: Nat.toDigits 10 power.natAbs

/-- The text of a float; what is not finite is written as null. -/
def writeReal (x : Float) : List Char :=
  match Number.read x with
  | .finite negative significand exponent =>
    let magnitude :=
      if significand = 0 then ['0', '.', '0']
      else
        let (digits, power) := Number.shortest significand exponent
        writeDecimal digits power
    if negative then '-' :: magnitude else magnitude
  | _ => ['n', 'u', 'l', 'l']

end Assay.Json
