import Assay.Json.Printer
import Assay.World

/-!
# Requests and answers on the wire

How a posted request is written as bytes and how the bytes that come back are read. An answer is
a status line, headers and a body, whose end is told by its length, by its last chunk or by the
end of the connection. An interim answer is skipped. `read?` finds out from the bytes that have
arrived whether the answer is whole.
-/
namespace Assay.Http

open Text

/-- The end of a line on the wire. -/
def lineEnd : List Char := ['\r', '\n']

/-- A header line. -/
def header (name : String) (value : List Char) : List Char :=
  name.toList ++ ':' :: ' ' :: value ++ lineEnd

/-- The part of an address that a request line names. -/
def target (url : Url) : List Char :=
  url.path ++ Url.behindMark '?' url.query

/-- A request as bytes. -/
def requestBytes (request : Post) : List UInt8 :=
  let body := utf8 (Json.writeValue request.body)
  utf8 ("POST ".toList ++ target request.url ++ " HTTP/1.1".toList ++ lineEnd ++
    header "content-type" "application/json".toList ++
    (match request.authorization with
    | some authorization => header "authorization" authorization.toList
    | none => []) ++
    header "accept" "*/*".toList ++ header "host" (request.url.hostWithPort) ++
    header "connection" "close".toList ++
    header "content-length" (Nat.toDigits 10 body.length) ++ lineEnd) ++ body

/-- The head of an answer and what follows the empty line after it. -/
def splitHead? : List UInt8 → Option (List UInt8 × List UInt8)
  | 13 :: 10 :: 13 :: 10 :: rest => some ([], rest)
  | byte :: rest => (splitHead? rest).map fun (head, rest) => (byte :: head, rest)
  | [] => none

/-- The lines of a head, where each byte is a character. -/
def linesOf (head : List UInt8) : List (List Char) :=
  (cut (· = '\n') (head.map fun byte => Char.ofNat byte.toNat)).map trim

/-- The status in a status line. -/
def statusOf? (line : List Char) : Option Nat :=
  match words line with
  | _ :: status :: _ => Number.count? 1000 status
  | _ => none

/-- The value of the first header with a name. -/
def headerValue? (name : String) (lines : List (List Char)) : Option (List Char) :=
  lines.findSome? fun line =>
    match cutFirst ':' line with
    | some (key, value) =>
      if String.ofList (key.map Char.toLower) = name then some (trim value) else none
    | none => none

/-- The first line of bytes and what follows it. -/
def splitLine? : List UInt8 → Option (List UInt8 × List UInt8)
  | 13 :: 10 :: rest => some ([], rest)
  | byte :: rest => (splitLine? rest).map fun (line, rest) => (byte :: line, rest)
  | [] => none

/-- The size of a chunk, which is written in hexadecimal before any extension. -/
def chunkSize? (line : List UInt8) : Option Nat :=
  let digits := (line.map fun byte => Char.ofNat byte.toNat).takeWhile fun c =>
    (Number.hexDigit? c).isSome
  if digits = [] then none else Number.ofBase? 16 digits

/-- The content of chunks up to the empty one, if all have arrived. The fuel bounds their
number. -/
def chunks? : (fuel : Nat) → List UInt8 → Option (List UInt8)
  | 0, _ => none
  | fuel + 1, bytes => do
    let (line, rest) ← splitLine? bytes
    let size ← chunkSize? line
    if size = 0 then some []
    else if rest.length < size then none
    else (chunks? fuel (rest.drop (size + 2))).map (rest.take size ++ ·)

/-- The body of an answer with a status and headers, if it has arrived. -/
def bodyOf? (status : Nat) (lines : List (List Char)) (bytes : List UInt8) (ended : Bool) :
    Option (List UInt8) :=
  if status = 204 ∨ status = 304 then some []
  else if (headerValue? "transfer-encoding" lines).map (·.map Char.toLower) =
      some "chunked".toList then
    chunks? (bytes.length + 1) bytes
  else match (headerValue? "content-length" lines).bind (Number.count? Number.word64Bound) with
    | some length => if length ≤ bytes.length then some (bytes.take length) else none
    | none => if ended then some bytes else none

/-- Read an answer from the bytes that have arrived, unless more are needed. The fuel bounds the
number of interim answers. -/
def readAnswer? (ended : Bool) : (fuel : Nat) → List UInt8 → Option Delivery
  | 0, _ => some (.unanswered false)
  | fuel + 1, bytes =>
    match splitHead? bytes with
    | none => if ended then some (.unanswered false) else none
    | some (head, rest) =>
      match linesOf head with
      | [] => some (.unanswered false)
      | line :: lines =>
        match statusOf? line with
        | none => some (.unanswered false)
        | some status =>
          if status < 200 then readAnswer? ended fuel rest
          else match bodyOf? status lines rest ended with
            | some body => some (.answered status body)
            | none => if ended then some (.cutShort false) else none

/-- What the bytes that have arrived amount to, unless more are needed. `ended` says that no more
will come. -/
def read? (bytes : List UInt8) (ended : Bool) : Option Delivery :=
  readAnswer? ended (bytes.length + 1) bytes

/-- What the bytes that have arrived amount to when the time is up before the answer is whole. -/
def late (bytes : List UInt8) : Delivery :=
  match read? bytes true with
  | none | some (.unanswered _) => .unanswered true
  | some _ => .cutShort true

end Assay.Http
