import Assay.Url.Host
import Assay.Url.Path

/-!
# Addresses

An address is read as the URL standard lays down: the scheme and the host in lower case, a port
only where it is not the usual one, dot segments of the path resolved, and characters that may not
stand as they are written as percent escapes. A user in an address is read and left out, unless
what is escaped in it is no text.
-/
namespace Assay

open Text

/-- An absolute address. -/
structure Url where
  scheme : List Char
  /-- A user with a password, where what is escaped in them is no text. -/
  user : List Char := []
  /-- The host, which may be empty, unless the address has no place for one. -/
  host : Option (List Char)
  port : Option Nat := none
  path : List Char
  query : Option (List Char)
  fragment : Option (List Char)

namespace Url

/-- What the scheme of an address says about the rest. -/
inductive Kind where
  /-- Addresses of a usual scheme have a host, and a usual port. -/
  | usual (port : Nat)
  | file
  | other

/-- What a scheme says. -/
def Kind.of (scheme : List Char) : Kind :=
  match String.ofList scheme with
  | "http" | "ws" => .usual 80
  | "https" | "wss" => .usual 443
  | "ftp" => .usual 21
  | "file" => .file
  | _ => .other

/-- Whether a backslash counts as a slash. -/
def Kind.isSlash (kind : Kind) (c : Char) : Bool :=
  c = '/' || (c = '\\' && match kind with | .other => false | _ => true)

/-- A text up to a mark, and what follows the mark. -/
def splitAt (mark : Char) (text : List Char) : List Char × Option (List Char) :=
  match cutFirst mark text with
  | some (before, after) => (before, some after)
  | none => (text, none)

/-- A text without the characters at its ends that do not count, and without tabs and line
breaks. -/
def cleaned (text : List Char) : List Char :=
  let isEdge := fun c : Char => c.toNat ≤ 32
  (((text.dropWhile isEdge).reverse.dropWhile isEdge).reverse).filter
    (· ∉ ['\t', '\n', '\r'])

/-- The scheme of an address and what follows its colon. -/
def scheme? (text : List Char) : Option (List Char × List Char) := do
  let (scheme, rest) ← cutFirst ':' text
  let first ← scheme.head?
  if first.isAlpha && scheme.all (fun c => c.isAlphanum || c ∈ ['+', '-', '.']) then
    some (scheme.map Char.toLower, rest)
  else none

/-- What stands before the last at sign of an authority, if there is one, and what follows it. -/
def splitUser (authority : List Char) : Option (List Char) × List Char :=
  let behind := (authority.reverse.takeWhile (· ≠ '@')).reverse
  if behind.length = authority.length then (none, authority)
  else (some (authority.take (authority.length - behind.length - 1)), behind)

/-- A user with a password as they are written, where neither is told if it is empty. -/
def userText (text : List Char) : List Char :=
  let (user, password) := splitAt ':' text
  let password := password.getD []
  escapeAll outsideUser user ++
    if password = [] then [] else ':' :: escapeAll outsideUser password

/-- Whether a user with a password is left out of an address. -/
def isLeftOut (text : List Char) : Bool :=
  let (user, password) := splitAt ':' text
  !isGarbled user && (user ≠ [] || !isGarbled (password.getD []))

/-- The text of a host at the front of an authority, and what follows it. A colon between brackets
belongs to the host. -/
def splitHost (isInside : Bool) : List Char → List Char × List Char
  | [] => ([], [])
  | c :: rest =>
    if c = ':' && !isInside then ([], c :: rest)
    else
      let (host, behind) := splitHost (c = '[' || (isInside && c ≠ ']')) rest
      (c :: host, behind)

/-- The port after a host, if it is not the usual one, and what follows it up to the path. -/
def port? (usual : Option Nat) : List Char → Option (Option Nat × List Char)
  | ':' :: text =>
    let digits := text.takeWhile Number.isDigit
    let behind := text.dropWhile Number.isDigit
    if digits = [] then some (none, behind)
    else (Number.count? 65536 digits).map fun port =>
      (if some port = usual then none else some port, behind)
  | behind => some (none, behind)

/-- The parts of an address with an authority. `isMore` says whether anything follows `text`. -/
def withAuthority? (scheme : List Char) (kind : Kind) (isMore : Bool) (text : List Char) :
    Option Url := do
  let authority := text.takeWhile (!kind.isSlash ·)
  let path := text.dropWhile (!kind.isSlash ·)
  let (user, place) := splitUser authority
  let (hostText, behind) := splitHost false place
  if user = some [] ∧ place = [] ∧ (path ≠ [] ∨ isMore) then none
  let shown := userText (user.getD [])
  let usual := match kind with | .usual port => some port | _ => none
  let host ← if usual.isSome then host? hostText else anyHost? hostText
  if host = [] ∧ (shown ≠ [] ∨ behind ≠ []) then none
  let (port, behind) ← port? usual behind
  let user := if isLeftOut (user.getD []) then [] else shown
  match kind, behind, path with
  | .usual _, [], path =>
    some { scheme, user, host, port, query := none, fragment := none,
           path := joinSegments (segmentsOf false kind.isSlash path) }
  | .usual _, _, _ => none
  | _, [], [] => some { scheme, user, host, port, query := none, fragment := none, path := [] }
  | _, [], path =>
    some { scheme, user, host, port, query := none, fragment := none,
           path := joinSegments (segmentsOf false kind.isSlash path) }
  | _, '\\' :: _, path =>
    some { scheme, user, host, port, query := none, fragment := none,
           path := joinSegments (segmentsOf false kind.isSlash ('/' :: behind ++ path)) }
  | _, _, _ => none

/-- The parts of the address of a file. -/
def ofFile? (scheme text : List Char) : Option Url := do
  let isSlash := Kind.file.isSlash
  let slashes := (text.takeWhile isSlash).length
  let behind := text.drop 2
  let name := behind.takeWhile (!isSlash ·)
  let isNamed := 2 ≤ slashes && (drive? name).isNone
  let host ← if isNamed ∧ name ≠ [] then host? name else some []
  let path :=
    if isNamed then behind.dropWhile (!isSlash ·)
    else if 2 ≤ slashes then '/' :: behind
    else if slashes = 1 then text
    else '/' :: text
  let segments := segmentsOf true isSlash path
  let host :=
    if host = "localhost".toList ∨ (segments.head?.bind drive?).isSome then [] else host
  some { scheme, host, query := none, fragment := none
         path := '/' :: (joinSegments segments).dropWhile (· = '/') }

/-- Read an address. -/
def parse? (text : String) : Option Url := do
  let (scheme, rest) ← scheme? (cleaned text.toList)
  let (rest, fragment) := splitAt '#' rest
  let (rest, query) := splitAt '?' rest
  let isMore := query.isSome || fragment.isSome
  let kind := Kind.of scheme
  let url ← match kind with
    | .usual _ => withAuthority? scheme kind isMore (rest.dropWhile kind.isSlash)
    | .file => ofFile? scheme rest
    | .other =>
      match rest with
      | '/' :: '/' :: rest => withAuthority? scheme kind isMore rest
      | '/' :: _ => some {
          scheme, host := none, query := none, fragment := none
          path := joinSegments (segmentsOf false kind.isSlash rest) }
      | _ => some {
          scheme, host := none, query := none, fragment := none
          path := escapeAll (fun _ => false) rest }
  let outside := match kind with | .other => outsideQuery | _ => outsideUsualQuery
  some { url with
    query := query.map (escapeAll outside)
    fragment := fragment.map (escapeAll outsideFragment) }

/-- A part of an address behind a mark, if there is one. -/
def behindMark (mark : Char) : Option (List Char) → List Char
  | some part => mark :: part
  | none => []

/-- The host of an address with its port, if that is told. -/
def hostWithPort (url : Url) : List Char :=
  url.host.getD [] ++ behindMark ':' (url.port.map (Nat.toDigits 10))

/-- The part of an address before its path. A path that could be taken for a host is kept apart
from the scheme by a dot. -/
def front (url : Url) : List Char :=
  match url.host, url.path with
  | some _, _ =>
    '/' :: '/' :: (if url.user = [] then [] else url.user ++ ['@']) ++ url.hostWithPort
  | none, '/' :: '/' :: _ => ['/', '.']
  | none, _ => []

/-- An address as text. -/
def toText (url : Url) : String :=
  String.ofList (url.scheme ++ ':' :: url.front ++ url.path ++ behindMark '?' url.query ++
    behindMark '#' url.fragment)

/-- The most characters of an address that requests can be sent to. -/
def longest : Nat := 65534

/-- Whether requests can be sent to an address. A few characters that a name may have keep it from
being one of a destination. -/
def isDestination (url : Url) : Bool :=
  (url.scheme == "http".toList || url.scheme == "https".toList) &&
    (url.host.getD []).all (· ∉ ['"', '\x60', '\x7b', '\x7d']) &&
    url.toText.length ≤ longest

end Url
end Assay
