import Assay.Number.Decimal
import Assay.Text.Cut

/-!
# Options of the command

The command takes options with values, written as `--name value` or `--name=value`, and one
option without. An option is given at most once, and a value that starts with a dash is written
after an equals sign. Arguments are read from left to right, so a request for the version counts
when what stands before it is in order.
-/
namespace Assay.Command

/-- What the command is told to do. -/
structure Options where
  tasks : String
  model : String
  modelArguments : String
  sampling : String
  graderModel : Option String
  graderArguments : String
  limit : Option Nat
  directory : Option String
  logging : Bool

/-- What an option is about. -/
inductive Key where
  | tasks
  | model
  | modelArguments
  | sampling
  | graderModel
  | graderArguments
  | limit
  | directory
  | logging
deriving DecidableEq

/-- What a list of arguments amounts to. -/
inductive Invocation where
  | evaluate (options : Options)
  | version
  | help
  | misuse

namespace Key

/-- The options in the order in which they are listed. -/
def all : List Key :=
  [.tasks, .model, .modelArguments, .sampling, .graderModel, .graderArguments, .limit, .directory,
    .logging]

/-- The name of an option. -/
def name : Key → String
  | .tasks => "tasks"
  | .model => "model"
  | .modelArguments => "model-args"
  | .sampling => "gen-kwargs"
  | .graderModel => "grader-model"
  | .graderArguments => "grader-model-args"
  | .limit => "max-samples"
  | .directory => "output-path"
  | .logging => "log-samples"

/-- Whether a text can be the value of an option. -/
def admits (key : Key) (value : String) : Bool :=
  match key with
  | .limit => (Number.natural? Number.word64Bound value.toList).isSome
  | .directory => value != ""
  | _ => true

end Key

/-- The options given so far, with their values. -/
abbrev Given := List (Key × String)

/-- The value of an option. -/
def Given.value? (given : Given) (key : Key) : Option String :=
  (given.find? (·.1 = key)).map (·.2)

/-- One more option, unless it is there already or cannot have the value. -/
def Given.add? (given : Given) (key : Key) (value : String) : Option Given :=
  if (given.value? key).isSome || !key.admits value then none else some ((key, value) :: given)

/-- What the options amount to when all arguments are read. -/
def Given.finish (given : Given) : Invocation :=
  match given.value? .tasks, given.value? .model with
  | some tasks, some model => .evaluate {
      tasks, model
      modelArguments := (given.value? .modelArguments).getD ""
      sampling := (given.value? .sampling).getD ""
      graderModel := given.value? .graderModel
      graderArguments := (given.value? .graderArguments).getD ""
      limit := (given.value? .limit).bind fun value =>
        Number.natural? Number.word64Bound value.toList
      directory := given.value? .directory
      logging := (given.value? .logging).isSome }
  | _, _ => .misuse

/-- Whether an argument is taken for an option rather than for a value. -/
def isOption (argument : String) : Bool :=
  match argument.toList with
  | '-' :: _ :: _ => true
  | _ => false

/-- The name after the two dashes of an argument, and the value after its equals sign. -/
def longOption? (argument : String) : Option (String × Option String) :=
  match argument.toList with
  | '-' :: '-' :: text =>
    match Text.cutFirst '=' text with
    | some (name, value) => some (String.ofList name, some (String.ofList value))
    | none => some (String.ofList text, none)
  | _ => none

/-- What an argument of one dash and letters amounts to. -/
def shortOption (argument : String) : Invocation :=
  match argument.toList with
  | '-' :: 'V' :: _ => .version
  | '-' :: 'h' :: _ => .help
  | _ => .misuse

/-- Read arguments after the options given so far. -/
def read (given : Given) : List String → Invocation
  | [] => given.finish
  | argument :: rest =>
    if argument = "--" then if rest.isEmpty then given.finish else .misuse
    else match longOption? argument with
      | none => shortOption argument
      | some ("version", none) => .version
      | some ("help", none) => .help
      | some (name, value?) =>
        match Key.all.find? (·.name = name), value? with
        | none, _ => .misuse
        | some .logging, none =>
          match given.add? .logging "" with
          | some given => read given rest
          | none => .misuse
        | some .logging, some _ => .misuse
        | some key, some value =>
          match given.add? key value with
          | some given => read given rest
          | none => .misuse
        | some key, none =>
          match rest with
          | [] => .misuse
          | value :: rest =>
            if isOption value then .misuse
            else match given.add? key value with
              | some given => read given rest
              | none => .misuse

/-- What the arguments of the command amount to. -/
def Invocation.ofArguments (arguments : List String) : Invocation :=
  read [] arguments

end Assay.Command
