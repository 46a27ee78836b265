import Assay.Failure
import Assay.Json.Decode

/-!
# Errors

What ends an evaluation, or keeps it from starting. The failure of a model call is not among
them, unless it says that the caller is not let in: all other failures become part of a result.
A crash is no error: nothing is made of it, and the program is over.
-/
namespace Assay

/-- Why a file cannot be written. -/
inductive FileFault where
  /-- A directory on the way to the file is not there. -/
  | missing
  | notDirectory
  | alreadyExists
  | isDirectory
  | nameTooLong
  /-- A path holds the character that ends a path. -/
  | endsEarly
  | other (message : String)
deriving DecidableEq

/-- The wording of a file fault. -/
def FileFault.message : FileFault → String
  | .missing => "No such file or directory (os error 2)"
  | .notDirectory => "Not a directory (os error 20)"
  | .alreadyExists => "File exists (os error 17)"
  | .isDirectory => "Is a directory (os error 21)"
  | .nameTooLong => "File name too long (os error 36)"
  | .endsEarly => "file name contained an unexpected NUL byte"
  | .other message => message

/-- Why there is no result. -/
inductive Error where
  /-- No destination was given for requests. -/
  | noDestination
  /-- The key of a caller cannot stand in a request. -/
  | unusableKey
  | unknownTask (name : String) (known : List String)
  | unknownProvider (name : String) (known : List String)
  /-- A JSON value does not stand for what was expected. -/
  | mismatch (cause : Json.Mismatch)
  | file (fault : FileFault)
  /-- A part of the model arguments is no assignment. -/
  | malformedArgument (part : String)
  /-- A model was named without its provider. -/
  | unqualifiedModel (name : String)
  | noTasks
  /-- A part of the sampling parameters is no assignment. -/
  | malformedParameter (part : String)
  | unknownParameter (key : String)
  /-- A value cannot be read as what its key needs. -/
  | invalidValue (key value : String)
  /-- A time limit is too large to be kept, or is not a number. -/
  | boundlessTimeout (value : String)
  /-- Nothing is left of a task to evaluate. -/
  | noSamples (task : String)
  /-- The model behind a connection does not let the caller in. -/
  | refused (connection : String) (failure : Failure)
deriving DecidableEq

/-- The wording of an error. -/
def Error.message : Error → String
  | .noDestination =>
    "Configuration error: MockRestApi requires a base_url. Set it via the base_url parameter " ++
      "or the MOCKREST_BASE_URL environment variable."
  | .unusableKey => "Configuration error: Invalid api_key: failed to parse header value"
  | .unknownTask name known =>
    "Unknown task: " ++ name ++ ". Available tasks: " ++ ", ".intercalate known
  | .unknownProvider name known =>
    "Unknown model provider: " ++ name ++ ". Available providers: " ++ ", ".intercalate known
  | .mismatch cause => "JSON serialization error: " ++ cause.message
  | .file fault => "IO error: " ++ fault.message
  | .malformedArgument part => "Invalid model args: Invalid format: " ++ part
  | .unqualifiedModel name =>
    "Invalid model args: Model must be given as provider/model, got: " ++ name
  | .noTasks => "Invalid model args: No tasks specified"
  | .malformedParameter part => "Parse error: Invalid format: " ++ part
  | .unknownParameter key => "Parse error: Unknown generation parameter: " ++ key
  | .invalidValue key value => "Parse error: Invalid " ++ key ++ ": " ++ value
  | .boundlessTimeout value =>
    "Parse error: Invalid timeout " ++ value ++
      ": cannot convert float seconds to Duration: value is either too big or NaN"
  | .noSamples task => "Task loading error: No samples available for " ++ task
  | .refused connection failure =>
    "Authentication failed for " ++ connection ++ ": " ++ failure.message

/-- Why a program does not come to a value. -/
inductive Halt where
  /-- There is an error, which can still be reported. -/
  | error (cause : Error)
  /-- The program was given up on the spot. -/
  | crash (message : String)
deriving DecidableEq

end Assay
