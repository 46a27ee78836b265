import Assay.Json.Numeral
import Assay.Number.Radix

/-!
# Reading JSON text

`parse` reads a text that holds one JSON value between blanks. Lists and objects nest to a depth
of 127. Each function here reads from the front of a text and returns what is left, so the
reading of a value does not depend on what stands after it.
-/
namespace Assay.Json

/-- The blanks between the parts of JSON text. -/
def isSpace (c : Char) : Bool :=
  c = ' ' || c = '\n' || c = '\t' || c = '\r'

/-- A text without the blanks at its front. -/
def skip (text : List Char) : List Char :=
  text.dropWhile isSpace

/-- Read the rest of a word. -/
def expect : (word : List Char) → List Char → Except Fault (List Char)
  | [], text => .ok text
  | _ :: _, [] => .error ⟨.endInValue, [], 0⟩
  | w :: word, c :: text =>
    if c = w then expect word text else .error ⟨.expectedIdent, c :: text, 1⟩

/-- Read four hexadecimal digits. They are taken as bytes: a text with fewer than four bytes ends
too early, and any other that is not four digits is refused after its fourth byte. -/
def hexUnit (text : List Char) : Except Fault Nat :=
  match text.take 4 with
  | [a, b, c, d] =>
    match Number.hexDigit? a, Number.hexDigit? b, Number.hexDigit? c, Number.hexDigit? d with
    | some a, some b, some c, some d => .ok (a * 4096 + b * 256 + c * 16 + d)
    | _, _, _, _ => .error ⟨.invalidEscape, text, 4⟩
  | few =>
    if byteCount few < 4 then .error ⟨.endInText, [], 0⟩ else .error ⟨.invalidEscape, text, 4⟩

/-- The character that an escape by number names, and how many characters the escape takes after
its backslash. A character above the first plane is a pair of escapes. -/
def numbered (text : List Char) : Except Fault (Char × Nat) := do
  let unit ← hexUnit text
  let rest := text.drop 4
  if 0xDC00 ≤ unit ∧ unit ≤ 0xDFFF then .error ⟨.loneSurrogate, rest, 0⟩
  else if unit < 0xD800 ∨ 0xDBFF < unit then .ok (Char.ofNat unit, 5)
  else match rest with
    | [] => .error ⟨.endInText, [], 0⟩
    | '\\' :: rest =>
      match rest with
      | [] => .error ⟨.endInText, [], 0⟩
      | 'u' :: rest => do
        let low ← hexUnit rest
        if low < 0xDC00 ∨ 0xDFFF < low then .error ⟨.loneSurrogate, rest.drop 4, 0⟩
        else .ok (Char.ofNat ((unit - 0xD800) * 1024 + (low - 0xDC00) + 0x10000), 11)
      | c :: rest => .error ⟨.unpairedSurrogate, c :: rest, 1⟩
    | c :: rest => .error ⟨.unpairedSurrogate, c :: rest, 1⟩

/-- The character that an escape names by a letter. -/
def lettered? : Char → Option Char
  | '"' => some '"'
  | '\\' => some '\\'
  | '/' => some '/'
  | 'b' => some '\x08'
  | 'f' => some '\x0c'
  | 'n' => some '\n'
  | 'r' => some '\r'
  | 't' => some '\t'
  | _ => none

/-- The character that an escape names, and how many characters it takes after its backslash. -/
def escaped : List Char → Except Fault (Char × Nat)
  | [] => .error ⟨.endInText, [], 0⟩
  | c :: text =>
    match lettered? c with
    | some named => .ok (named, 1)
    | none => if c = 'u' then numbered text else .error ⟨.invalidEscape, c :: text, 1⟩

/-- Read a text up to its closing quote, where `passed` characters belong to the escape read
last. -/
def readText : (passed : Nat) → List Char → Except Fault (List Char × List Char)
  | _, [] => .error ⟨.endInText, [], 0⟩
  | passed + 1, _ :: text => readText passed text
  | 0, c :: text =>
    if c = '"' then .ok ([], text)
    else if c = '\\' then do
      let (named, taken) ← escaped text
      let (content, rest) ← readText taken text
      .ok (named :: content, rest)
    else if c.toNat < 32 then .error ⟨.controlCharacter, c :: text, 1⟩
    else do
      let (content, rest) ← readText 0 text
      .ok (c :: content, rest)

/-- Read the items of a list after its first one. The fuel bounds their number. -/
def readItems (readValue : List Char → Except Fault (Value × List Char)) :
    (fuel : Nat) → List Char → Except Fault (List Value × List Char)
  | 0, text => .error ⟨.endInList, text, 0⟩
  | fuel + 1, text =>
    match skip text with
    | [] => .error ⟨.endInList, [], 0⟩
    | ']' :: rest => .ok ([], rest)
    | ',' :: rest =>
      match skip rest with
      | [] => .error ⟨.endInValue, [], 0⟩
      | ']' :: rest => .error ⟨.trailingComma, ']' :: rest, 1⟩
      | rest => do
        let (item, rest) ← readValue rest
        let (items, rest) ← readItems readValue fuel rest
        .ok (item :: items, rest)
    | rest => .error ⟨.expectedItem, rest, 1⟩

/-- Read a list after its opening bracket. -/
def readList (readValue : List Char → Except Fault (Value × List Char)) (text : List Char) :
    Except Fault (List Value × List Char) :=
  match skip text with
  | [] => .error ⟨.endInList, [], 0⟩
  | ']' :: rest => .ok ([], rest)
  | rest => do
    let (item, rest) ← readValue rest
    let (items, rest) ← readItems readValue rest.length rest
    .ok (item :: items, rest)

/-- Read a member from its opening quote on. -/
def readMember (readValue : List Char → Except Fault (Value × List Char)) (text : List Char) :
    Except Fault ((String × Value) × List Char) := do
  let (name, rest) ← readText 0 text
  match skip rest with
  | [] => .error ⟨.endInObject, [], 0⟩
  | ':' :: rest => do
    let (value, rest) ← readValue rest
    .ok ((String.ofList name, value), rest)
  | rest => .error ⟨.expectedColon, rest, 1⟩

/-- Read the members of an object after its first one. The fuel bounds their number. -/
def readMembers (readValue : List Char → Except Fault (Value × List Char)) :
    (fuel : Nat) → List Char → Except Fault (List (String × Value) × List Char)
  | 0, text => .error ⟨.endInObject, text, 0⟩
  | fuel + 1, text =>
    match skip text with
    | [] => .error ⟨.endInObject, [], 0⟩
    | '\x7d' :: rest => .ok ([], rest)
    | ',' :: rest =>
      match skip rest with
      | [] => .error ⟨.endInValue, [], 0⟩
      | '"' :: rest => do
        let (member, rest) ← readMember readValue rest
        let (members, rest) ← readMembers readValue fuel rest
        .ok (member :: members, rest)
      | '\x7d' :: rest => .error ⟨.trailingComma, '\x7d' :: rest, 1⟩
      | rest => .error ⟨.keyNotText, rest, 1⟩
    | rest => .error ⟨.expectedMember, rest, 1⟩

/-- Read an object after its opening brace. -/
def readObject (readValue : List Char → Except Fault (Value × List Char)) (text : List Char) :
    Except Fault (List (String × Value) × List Char) :=
  match skip text with
  | [] => .error ⟨.endInObject, [], 0⟩
  | '\x7d' :: rest => .ok ([], rest)
  | '"' :: rest => do
    let (member, rest) ← readMember readValue rest
    let (members, rest) ← readMembers readValue rest.length rest
    .ok (member :: members, rest)
  | rest => .error ⟨.keyNotText, rest, 1⟩

/-- Read a value in which lists and objects nest to a given depth. Of members with one name the
last counts. -/
def readValue : (depth : Nat) → List Char → Except Fault (Value × List Char)
  | depth, text =>
    match skip text with
    | [] => .error ⟨.endInValue, [], 0⟩
    | 'n' :: rest => do let rest ← expect ['u', 'l', 'l'] rest; .ok (.null, rest)
    | 't' :: rest => do let rest ← expect ['r', 'u', 'e'] rest; .ok (.bool true, rest)
    | 'f' :: rest => do let rest ← expect ['a', 'l', 's', 'e'] rest; .ok (.bool false, rest)
    | '-' :: rest => readNumber true rest
    | '"' :: rest => do
      let (content, rest) ← readText 0 rest
      .ok (.text (String.ofList content), rest)
    | '[' :: rest =>
      match depth with
      | 0 => .error ⟨.tooDeep, '[' :: rest, 1⟩
      | depth + 1 => do
        let (items, rest) ← readList (readValue depth) rest
        .ok (.list items, rest)
    | '\x7b' :: rest =>
      match depth with
      | 0 => .error ⟨.tooDeep, '\x7b' :: rest, 1⟩
      | depth + 1 => do
        let (members, rest) ← readObject (readValue depth) rest
        .ok (Value.ofMembers members, rest)
    | c :: rest =>
      if Number.isDigit c then readNumber false (c :: rest)
      else .error ⟨.expectedValue, c :: rest, 1⟩

/-- How deep lists and objects nest in a text that is read. -/
def depthLimit : Nat := 127

/-- Read a text that is one value between blanks. -/
def parseChars (text : List Char) : Except Fault Value := do
  let (value, rest) ← readValue depthLimit text
  match skip rest with
  | [] => .ok value
  | rest => .error ⟨.trailingCharacters, rest, 1⟩

/-- Read a JSON value from a text. -/
def parse (text : String) : Except SyntaxError Value :=
  (parseChars text.toList).mapError (·.locate text.toList)

end Assay.Json
