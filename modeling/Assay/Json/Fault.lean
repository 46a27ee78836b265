/-!
# Faults in JSON text

A fault is a cause and a place. While a text is read the place is kept as what remains of it;
`Fault.locate` turns that into a line and a column, where columns count bytes from one and a
fault at the end of the text has the column of its last byte.
-/
namespace Assay.Json

/-- Why a text is not a JSON value. -/
inductive Cause where
  | endInValue
  | endInList
  | endInObject
  | endInText
  | expectedIdent
  | expectedValue
  | expectedColon
  | expectedItem
  | expectedMember
  | keyNotText
  | trailingComma
  | trailingCharacters
  | invalidNumber
  | outOfRange
  | invalidEscape
  | loneSurrogate
  | unpairedSurrogate
  | controlCharacter
  | tooDeep
deriving DecidableEq

/-- The wording of a cause. -/
def Cause.message : Cause → String
  | .endInValue => "EOF while parsing a value"
  | .endInList => "EOF while parsing a list"
  | .endInObject => "EOF while parsing an object"
  | .endInText => "EOF while parsing a string"
  | .expectedIdent => "expected ident"
  | .expectedValue => "expected value"
  | .expectedColon => "expected `:`"
  | .expectedItem => "expected `,` or `]`"
  | .expectedMember => "expected `,` or `\x7d`"
  | .keyNotText => "key must be a string"
  | .trailingComma => "trailing comma"
  | .trailingCharacters => "trailing characters"
  | .invalidNumber => "invalid number"
  | .outOfRange => "number out of range"
  | .invalidEscape => "invalid escape"
  | .loneSurrogate => "lone leading surrogate in hex escape"
  | .unpairedSurrogate => "unexpected end of hex escape"
  | .controlCharacter => "control character (\\u0000-\\u001F) found while parsing a string"
  | .tooDeep => "recursion limit exceeded"

/-- A cause, what of the text is left where it was found, and how many bytes past that it is
reported. -/
structure Fault where
  cause : Cause
  rest : List Char
  ahead : Nat

/-- A fault with its place in the whole text. -/
structure SyntaxError where
  cause : Cause
  line : Nat
  column : Nat
deriving DecidableEq

/-- The wording of a fault with its place. -/
def SyntaxError.message (e : SyntaxError) : String :=
  e.cause.message ++ " at line " ++ toString e.line ++ " column " ++ toString e.column

/-- The number of bytes of a text. -/
def byteCount (text : List Char) : Nat :=
  text.foldr (fun c count => c.utf8Size + count) 0

/-- The line and column after a number of bytes of a text, from a line and column before it. -/
def advance (line column : Nat) : (bytes : Nat) → List Char → Nat × Nat
  | 0, _ => (line, column)
  | _, [] => (line, column)
  | bytes + 1, c :: text =>
    if c = '\n' then advance (line + 1) 0 bytes text
    else advance line (column + min c.utf8Size (bytes + 1)) (bytes + 1 - c.utf8Size) text

/-- The place of a fault in the text that was read. -/
def Fault.locate (fault : Fault) (text : List Char) : SyntaxError :=
  let total := byteCount text
  let (line, column) :=
    advance 1 0 (min total (total - byteCount fault.rest + fault.ahead)) text
  ⟨fault.cause, line, column⟩

end Assay.Json
