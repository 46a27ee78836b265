import Assay.Number.Binary64

/-!
# Numbers in decimal

Reading and writing decimal numbers. A text is read as the float nearest to the number it names,
and a float is written with the fewest digits that read back as it, and with the nearest such
digits to it.
-/
namespace Assay.Number

/-- A decimal digit. -/
def isDigit (c : Char) : Bool :=
  '0' ≤ c && c ≤ '9'

/-- The number that decimal digits name. -/
def ofDigits (digits : List Char) : Nat :=
  digits.foldl (fun n c => 10 * n + (c.toNat - '0'.toNat)) 0

/-- The natural below `bound` that decimal digits name, at least one of them. -/
def count? (bound : Nat) (digits : List Char) : Option Nat :=
  if digits ≠ [] ∧ digits.all isDigit ∧ ofDigits digits < bound then some (ofDigits digits)
  else none

/-- The natural below `bound` that a text names: decimal digits after at most one plus sign. -/
def natural? (bound : Nat) : List Char → Option Nat
  | '+' :: digits => count? bound digits
  | digits => count? bound digits

/-- The float nearest to `digits * 10 ^ exponent`. Outside the exponents that are scaled, the
number is past the largest float or below half of the least. -/
def ofDecimal (digits : Nat) (exponent : Int) : Float :=
  let size : Int := (Nat.toDigits 10 digits).length + exponent
  if digits = 0 then Float.ofBits 0
  else if 310 < size then infinity
  else if size < -330 then Float.ofBits 0
  else nearest (digits * Nat.pow 10 exponent.toNat) (Nat.pow 10 (-exponent).toNat)

/-- A sign at the front of a text, and what follows it. -/
def sign : List Char → Bool × List Char
  | '-' :: rest => (true, rest)
  | '+' :: rest => (false, rest)
  | text => (false, text)

/-- The exponent written at the end of a number: none, or a mark, a sign and digits. -/
def exponent? : List Char → Option Int
  | [] => some 0
  | mark :: rest =>
    let (negative, digits) := sign rest
    if (mark = 'e' ∨ mark = 'E') ∧ digits ≠ [] ∧ digits.all isDigit then
      some (if negative then -(ofDigits digits : Int) else ofDigits digits)
    else none

/-- The float that an unsigned decimal number names: digits, a point with digits on at least one
side of it, an exponent. -/
def decimal? (text : List Char) : Option Float :=
  let whole := text.takeWhile isDigit
  let rest := text.dropWhile isDigit
  let (fraction, rest) := match rest with
    | '.' :: rest => (rest.takeWhile isDigit, rest.dropWhile isDigit)
    | rest => ([], rest)
  if whole = [] ∧ fraction = [] then none
  else (exponent? rest).map fun exponent =>
    ofDecimal (ofDigits (whole ++ fraction)) (exponent - fraction.length)

/-- The float that a text names: a sign, then a decimal number or, in any letter case, the name
of infinity or of no number. -/
def float? (text : List Char) : Option Float :=
  let (negative, rest) := sign text
  let name := rest.map Char.toLower
  let magnitude? :=
    if name = ['i', 'n', 'f'] ∨ name = ['i', 'n', 'f', 'i', 'n', 'i', 't', 'y'] then some infinity
    else if name = ['n', 'a', 'n'] then some (0.0 / 0.0)
    else decimal? rest
  magnitude?.map fun x => if negative then -x else x

/-- The power of ten of the first digit of a positive ratio. -/
def magnitude (num den : Nat) : Int :=
  if den ≤ num then (Nat.toDigits 10 (num / den)).length - 1
  else match (List.range 400).find? fun shift => den ≤ num * Nat.pow 10 shift with
    | some shift => -(shift : Int)
    | none => -400

/-- The multiple of `10 ^ grid` nearest to `num / den` among its two neighbours on that grid that
lie in the given interval, as a count of `10 ^ grid`. All three numbers have the denominator
`den`, and `closed` says that the ends belong to the interval. -/
def onGrid? (num low high den : Nat) (closed : Bool) (grid : Int) : Option Nat :=
  let up := Nat.pow 10 (-grid).toNat
  let down := den * Nat.pow 10 grid.toNat
  let below := num * up / down
  let inside := fun count =>
    let at_ := count * down
    if closed then low * up ≤ at_ && at_ ≤ high * up else low * up < at_ && at_ < high * up
  let nearer := if 2 * (num * up % down) < down ∨
      (2 * (num * up % down) = down ∧ below % 2 = 0) then below else below + 1
  if inside nearer then some nearer
  else if inside below then some below
  else if inside (below + 1) then some (below + 1)
  else none

/-- A number of powers of ten without its trailing zeros. -/
def dropZeros : (fuel digits : Nat) → Int → Nat × Int
  | 0, digits, exponent => (digits, exponent)
  | fuel + 1, digits, exponent =>
    if digits % 10 = 0 then dropZeros fuel (digits / 10) (exponent + 1) else (digits, exponent)

/-- The shortest decimal `digits * 10 ^ exponent` that reads back as a positive float, and of
those the one nearest to it. The numbers that read as the float are those nearer to it than to
its neighbours; the lower neighbour of a power of two is half as far, and the ends of the
interval belong to it when the significand is even. -/
def shortest (significand : Nat) (exponent : Int) : Nat × Int :=
  let (_, den) := ratio 1 (exponent - 2)
  let scale := Nat.pow 2 (exponent - 2).toNat
  let num := 4 * significand * scale
  let narrow := significand = leadingBit ∧ exponent ≠ -1074
  let low := (4 * significand - if narrow then 1 else 2) * scale
  let high := (4 * significand + 2) * scale
  let first := magnitude num den
  let found := (List.range 17).findSome? fun (places : Nat) =>
    let grid := first - places
    (onGrid? num low high den (significand % 2 == 0) grid).map fun digits => (digits, grid)
  match found with
  | some (digits, grid) => dropZeros 17 digits grid
  | none => (significand, 0)

end Assay.Number
