import Assay.Text.Cut
import Assay.Url.Escape

/-!
# Paths of addresses

A path is a list of segments, each behind a slash. A segment of one dot stands for where it is, and
one of two dots for the segment above, unless that names a drive: a letter and a colon. The first
segment of the path of a file may name a drive with a bar in place of the colon.
-/
namespace Assay.Url

open Text

/-- Whether a segment stands for the segment it is in. -/
def isHere (segment : List Char) : Bool :=
  String.ofList (segment.map Char.toLower) ∈ [".", "%2e"]

/-- Whether a segment stands for the one above. -/
def isAbove (segment : List Char) : Bool :=
  String.ofList (segment.map Char.toLower) ∈ ["..", ".%2e", "%2e.", "%2e%2e"]

/-- The letter of the drive that a segment names. -/
def drive? : List Char → Option Char
  | [letter, mark] => if letter.isAlpha && (mark = ':' || mark = '|') then some letter else none
  | _ => none

/-- A segment with a drive that it names in the usual way. -/
def withColon (segment : List Char) : List Char :=
  match drive? segment with
  | some letter => [letter, ':']
  | none => segment

/-- The segments above the last of those so far, latest first. -/
def parent : List (List Char) → List (List Char)
  | [] => []
  | last :: above => if (drive? last).isSome then last :: above else above

/-- The segments of a path without dot segments, where `done` holds those so far, latest first. A
dot segment at the end leaves an empty one. -/
def resolve (isFile : Bool) (done : List (List Char)) : List (List Char) → List (List Char)
  | [] => done.reverse
  | segment :: rest =>
    let isDots := isAbove segment || isHere segment
    let done :=
      if isAbove segment then parent done
      else if isHere segment then done
      else (if isFile && done.isEmpty then withColon segment else segment) :: done
    if rest = [] ∧ isDots then ([] :: done).reverse else resolve isFile done rest

/-- The segments that a text names, which starts with a slash unless it is empty. -/
def segmentsOf (isFile : Bool) (isSlash : Char → Bool) (text : List Char) : List (List Char) :=
  resolve isFile [] ((cut isSlash (text.drop 1)).map (escapeAll outsidePath))

/-- The path that segments make. -/
def joinSegments (segments : List (List Char)) : List Char := segments.flatMap ('/' :: ·)

end Assay.Url
