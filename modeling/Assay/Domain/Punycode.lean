import Assay.Number.Bound
import Assay.Number.Decimal

/-!
# Names in ASCII

A text is written in the letters, the digits and the hyphen of ASCII: first its characters of
ASCII, then a hyphen if there are any, then a number for each of the others. The others are taken
in the order of their code points, and of their places for one code point. The number says how many
steps lie between one of them and the next, where a step goes to the next place, and from the last
place to the first one and the next code point. A number is written with the least digit first in
base 36; the digit that ends it is one below a threshold, which adapts to the size of the numbers.
-/
namespace Assay.Domain.Punycode

/-- How many digits there are. -/
def base : Nat := 36

/-- The first code point that is not of ASCII. -/
def firstCodePoint : Nat := 128

/-- The bias before the first number. -/
def firstBias : Nat := 72

/-- A digit: letters, and then the digits of decimal numbers. -/
def digitChar (n : Nat) : Char :=
  if n < 26 then Char.ofNat ('a'.toNat + n) else Char.ofNat ('0'.toNat + n - 26)

/-- The value of a digit. -/
def digit? (c : Char) : Option Nat :=
  if 'a' ≤ c ∧ c ≤ 'z' then some (c.toNat - 'a'.toNat)
  else if 'A' ≤ c ∧ c ≤ 'Z' then some (c.toNat - 'A'.toNat)
  else if Number.isDigit c then some (c.toNat - '0'.toNat + 26)
  else none

/-- The least digit that does not end a number, for the digit of weight number `k / base`. -/
def threshold (k bias : Nat) : Nat := max 1 (min 26 (k - bias))

/-- Thresholds leave digits on either side. -/
theorem threshold_bounds (k bias : Nat) : 1 ≤ threshold k bias ∧ threshold k bias ≤ 26 := by
  simp only [threshold]
  omega

/-- How often a number is divided until it is small, counted in digits from `k` on, and what is
left of it. -/
def settle (k delta : Nat) : Nat × Nat :=
  if 455 < delta then settle (k + base) (delta / 35) else (k, delta)
termination_by delta
decreasing_by omega

/-- The bias after a number, where `count` characters have been placed. -/
def adapt (delta count : Nat) (isFirst : Bool) : Nat :=
  let scaled := if isFirst then delta / 700 else delta / 2
  let (k, rest) := settle 0 (scaled + scaled / count)
  k + base * rest / (rest + 38)

/-- A number from the digit on whose weight is number `k / base`. -/
def digits (bias k n : Nat) : List Char :=
  let t := threshold k bias
  if n < t then [digitChar n]
  else digitChar (t + (n - t) % (base - t)) :: digits bias (k + base) ((n - t) / (base - t))
termination_by n
decreasing_by
  have bounds := threshold_bounds k bias
  exact Nat.lt_of_le_of_lt (Nat.div_le_self _ _) (by omega)

/-- What has been written so far: the digits, the steps since the last number, the bias, and how
many characters have been placed. -/
structure Writing where
  written : List Char
  delta : Nat
  bias : Nat
  placed : Nat

/-- Pass one character of a text while those of a code point are written. -/
def Writing.pass (basic target : Nat) (writing : Writing) (n : Nat) : Writing :=
  if n < target then { writing with delta := writing.delta + 1 }
  else if n = target then {
    written := writing.written ++ digits writing.bias base writing.delta
    delta := 0
    bias := adapt writing.delta (writing.placed + 1) (writing.placed == basic)
    placed := writing.placed + 1 }
  else writing

/-- Write the characters of code points, of which all from `next` on are still to be written. -/
def Writing.writeAll (text : List Nat) (basic : Nat) (writing : Writing) (next : Nat) :
    List Nat → Writing
  | [] => writing
  | target :: targets =>
    let reached := { writing with
      delta := writing.delta + (target - next) * (writing.placed + 1) }
    let passed := text.foldl (Writing.pass basic target) reached
    { passed with delta := passed.delta + 1 }.writeAll text basic (target + 1) targets

/-- Put a number among others that increase, unless it is there. -/
def insertNew (n : Nat) : List Nat → List Nat
  | [] => [n]
  | m :: rest =>
    if n < m then n :: m :: rest
    else if n = m then m :: rest
    else m :: insertNew n rest

/-- A text in ASCII. -/
def encode (text : List Char) : List Char :=
  let points := text.map Char.toNat
  let basic := text.filter fun c => c.toNat < firstCodePoint
  let targets := (points.filter (firstCodePoint ≤ ·)).foldr insertNew []
  let start : Writing := ⟨[], 0, firstBias, basic.length⟩
  basic ++ (if basic.isEmpty then [] else ['-']) ++
    (start.writeAll points basic.length firstCodePoint targets).written

/-- What has been read so far: the text, the last code point and the place after it, the bias, and
of the number that is being read its value, the weight of its next digit, and which one that is. -/
structure Reading where
  text : List Nat
  point : Nat
  place : Nat
  bias : Nat
  value : Nat
  weight : Nat
  k : Nat

/-- Place the character that a number stands for. -/
def Reading.finish? (reading : Reading) : Option Reading :=
  let count := reading.text.length + 1
  let reached := reading.place + reading.value
  let point := reading.point + reached / count
  if point.isValidChar then
    some {
      text := reading.text.insertIdx (reached % count) point
      point
      place := reached % count + 1
      bias := adapt reading.value count (reading.place == 0)
      value := 0
      weight := 1
      k := base }
  else none

/-- Read one more digit. -/
def Reading.next? (reading : Reading) (c : Char) : Option Reading := do
  let digit ← digit? c
  let t := threshold reading.k reading.bias
  let weight := reading.weight * (base - t)
  let longer : Reading := { reading with value := reading.value + digit * reading.weight }
  if Number.word32Bound ≤ longer.place + longer.value then none
  else if digit < t then longer.finish?
  else if Number.word32Bound ≤ weight then none
  else some { longer with weight, k := reading.k + base }

/-- What stands before the last hyphen of a text, if there is one, and what follows it. A hyphen
at the front is a digit like the others, which it cannot be. -/
def splitBasic (code : List Char) : List Char × List Char :=
  let rest := (code.reverse.takeWhile (· ≠ '-')).reverse
  let basic := code.take (code.length - rest.length - 1)
  if basic.isEmpty then ([], code) else (basic, rest)

/-- The text that is written as another in ASCII. -/
def decode? (code : List Char) : Option (List Char) := do
  let (basic, rest) := splitBasic code
  if basic.any fun c => firstCodePoint ≤ c.toNat then none
  let start : Reading :=
    ⟨basic.map Char.toNat, firstCodePoint, 0, firstBias, 0, 1, base⟩
  let reading ← rest.foldlM Reading.next? start
  if reading.k = base then some (reading.text.map Char.ofNat) else none

end Assay.Domain.Punycode
