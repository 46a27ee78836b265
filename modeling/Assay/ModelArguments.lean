import Assay.Json.Parser
import Assay.Retry

/-!
# Model arguments

How a model is reached, and how often it is asked again, as assignments in one text. A key that
is none of the five known ones names a further member of every request; its value is read as
JSON where it is JSON, and is a text elsewhere. Further members are kept in order, and the last
assignment to a known key counts.
-/
namespace Assay

open Json

/-- How a model is reached. -/
structure ModelArguments where
  address : Option String := none
  key : Option String := none
  timeout : Option Duration := none
  maxRetries : UInt32 := 3
  maxConnections : UInt64 := 8
  extra : List (String × Value) := []

namespace ModelArguments

/-- The time limit that a text names in seconds, which is more than zero. -/
def timeoutOf (value : List Char) : Except Error Duration := do
  let seconds ← Sampling.valueOf Number.float? "timeout".toList value
  if seconds ≤ 0.0 then .error (.invalidValue "timeout" (String.ofList value))
  else match Duration.ofFloatSeconds? seconds with
    | some timeout => .ok timeout
    | none => .error (.boundlessTimeout (String.ofList value))

/-- The value that a text stands for: the JSON it holds, or else itself. -/
def extraValue (text : String) : Value :=
  match parse text with
  | .ok value => value
  | .error _ => .text text

/-- Set one argument. -/
def set (arguments : ModelArguments) (key value : List Char) : Except Error ModelArguments :=
  match String.ofList key with
  | "base_url" => .ok { arguments with address := some (String.ofList value) }
  | "api_key" => .ok { arguments with key := some (String.ofList value) }
  | "timeout" => do .ok { arguments with timeout := some (← timeoutOf value) }
  | "max_retries" => do
    .ok { arguments with maxRetries := (← Sampling.valueOf Sampling.word32? key value) }
  | "max_connections" => do
    .ok { arguments with maxConnections := (← Sampling.valueOf Sampling.word64? key value) }
  | name =>
    .ok { arguments with extra := arguments.extra ++ [(name, extraValue (String.ofList value))] }

/-- Read arguments from assignments. -/
def ofText (text : String) : Except Error ModelArguments :=
  Assignment.applyAll .malformedArgument set {} text.toList

/-- The settings of a run with a model. -/
def runSettings (arguments : ModelArguments) : RunSettings where
  maxRetries := arguments.maxRetries
  maxConnections := arguments.maxConnections
  initialPause := .ofSeconds 1

end ModelArguments
end Assay
