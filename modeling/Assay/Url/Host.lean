import Assay.Domain
import Assay.Number.Bound
import Assay.Number.Decimal
import Assay.Url.Escape

/-!
# Hosts of addresses

A host is a domain name, an address of 32 bits, or one of 128 bits between brackets. A domain name
whose last part is a number has to be an address of 32 bits. Addresses are written in one way,
however they were written before. In an address whose scheme is none of the usual ones, a host is
any text.
-/
namespace Assay.Url

open Text

/-- A part of a numeric host: decimal, octal after a zero, hexadecimal after `0x`. -/
def hostNumber? : List Char → Option Nat
  | [] => none
  | '0' :: 'x' :: digits => Number.ofBase? 16 digits
  | '0' :: digits => Number.ofBase? 8 digits
  | digits => Number.ofBase? 10 digits

/-- The address of 32 bits that numbers name, of which the last fills all bytes left. -/
def joinNumbers? : (bytes : Nat) → List Nat → Option Nat
  | _, [] => none
  | bytes, [last] => if last < Nat.pow 256 bytes then some last else none
  | bytes, first :: rest =>
    if first < 256 then
      (joinNumbers? (bytes - 1) rest).map (first * Nat.pow 256 (bytes - 1) + ·)
    else none

/-- An address of 32 bits as four numbers between points. -/
def dotted (address : Nat) : List Char :=
  ['.'].intercalate ([3, 2, 1, 0].map fun place =>
    Nat.toDigits 10 (address / Nat.pow 256 place % 256))

/-- The host that a name in ASCII stands for. -/
def namedHost? (name : List Char) : Option (List Char) :=
  let parts := cut (· = '.') name
  let parts := if 1 < parts.length ∧ parts.getLast? = some [] then parts.dropLast else parts
  let last := parts.getLast?.getD []
  if name = [] then none
  else if (last ≠ [] ∧ last.all Number.isDigit) ∨ (hostNumber? last).isSome then do
    let numbers ← parts.mapM hostNumber?
    if 4 < numbers.length then none else (joinNumbers? 4 numbers).map dotted
  else some name

/-- The two pieces of an address of 128 bits that four decimal numbers between points name. -/
def dottedPieces? (text : List Char) : Option (List Nat) := do
  let numbers ← (cut (· = '.') text).mapM fun digits =>
    if 1 < digits.length ∧ digits.head? = some '0' then none else Number.count? 256 digits
  match numbers with
  | [a, b, c, d] => some [256 * a + b, 256 * c + d]
  | _ => none

/-- The piece of an address of 128 bits that up to four hexadecimal digits name. -/
def piece? (digits : List Char) : Option Nat :=
  if digits = [] ∨ 4 < digits.length then none else Number.ofBase? 16 digits

/-- The pieces that parts name, of which the last may be four decimal numbers. -/
def pieces? : List (List Char) → Option (List Nat)
  | [] => some []
  | [last] => if '.' ∈ last then dottedPieces? last else (piece? last).map ([·])
  | part :: parts => do
    let piece ← piece? part
    let pieces ← pieces? parts
    some (piece :: pieces)

/-- Parts between colons without the empty one that two colons at an end leave outside. A single
colon at an end is refused. -/
def trimEnd? : List (List Char) → Option (List (List Char))
  | [] :: [] :: parts => some ([] :: parts)
  | [] :: _ => none
  | parts => some parts

/-- The eight pieces of an address of 128 bits, where two colons stand for one or more pieces that
are zero. -/
def eightPieces? (text : List Char) : Option (List Nat) := do
  let parts ← trimEnd? (cut (· = ':') text)
  let parts ← (trimEnd? parts.reverse).map List.reverse
  let front := parts.takeWhile (· ≠ [])
  match parts.dropWhile (· ≠ []) with
  | [] =>
    let pieces ← pieces? front
    if pieces.length = 8 then some pieces else none
  | _ :: back =>
    if front.any ('.' ∈ ·) then none
    let before ← pieces? front
    let after ← pieces? back
    let count := before.length + after.length
    if count < 8 then some (before ++ List.replicate (8 - count) 0 ++ after) else none

/-- How many zeros are at the front of pieces. -/
def zeros (pieces : List Nat) : Nat := (pieces.takeWhile (· = 0)).length

/-- Where the first of the longest runs of zeros starts. -/
def longestZeros (pieces : List Nat) : Nat :=
  (List.range pieces.length).foldl
    (fun best place => if zeros (pieces.drop best) < zeros (pieces.drop place) then place else best)
    0

/-- Pieces between colons. -/
def joinPieces (pieces : List Nat) : List Char :=
  [':'].intercalate (pieces.map (Nat.toDigits 16))

/-- An address of 128 bits, where two colons stand for the longest run of two or more zeros. -/
def sixteenBytes (pieces : List Nat) : List Char :=
  let place := longestZeros pieces
  let count := zeros (pieces.drop place)
  if count < 2 then joinPieces pieces
  else joinPieces (pieces.take place) ++ [':', ':'] ++ joinPieces (pieces.drop (place + count))

/-- The host that a text between brackets stands for. -/
def bracketed? (text : List Char) : Option (List Char) :=
  match text.reverse with
  | ']' :: inside => (eightPieces? inside.reverse).map fun pieces =>
    '[' :: sixteenBytes pieces ++ [']']
  | _ => none

/-- The host that a text stands for in an address with a usual scheme. -/
def host? : List Char → Option (List Char)
  | '[' :: text => bracketed? text
  | text => (Domain.toAscii? (ofUtf8 (unescape text))).bind namedHost?

/-- The host that a text stands for in an address with another scheme. -/
def anyHost? : List Char → Option (List Char)
  | '[' :: text => bracketed? text
  | text =>
    if text.any (· ∈ ['\x00', ' ', '#', '/', ':', '<', '>', '?', '@', '[', '\\', ']', '^', '|'])
    then none
    else some (escapeAll (fun _ => false) text)

end Assay.Url
