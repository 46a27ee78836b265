import Assay.Message

/-!
# What a model returns

An output holds the choices that a model offers, of which the first counts, how many tokens were
used, and the text of an error when the call failed. Each choice says why it ended.
-/
namespace Assay

open Json

/-- Why a choice ended. -/
inductive StopReason where
  | stop
  | maxTokens
  | modelLength
  | toolCalls
  | contentFilter
  | unknown
deriving DecidableEq

namespace StopReason

/-- The reasons in order. -/
def all : List StopReason :=
  [.stop, .maxTokens, .modelLength, .toolCalls, .contentFilter, .unknown]

/-- The word for a reason. -/
def name : StopReason → String
  | .stop => "stop"
  | .maxTokens => "max_tokens"
  | .modelLength => "model_length"
  | .toolCalls => "tool_calls"
  | .contentFilter => "content_filter"
  | .unknown => "unknown"

/-- The reason that an endpoint gives in words of its own. -/
def ofWord? : Option String → StopReason
  | some "stop" | some "eos" => .stop
  | some "length" | some "max_tokens" => .maxTokens
  | some "model_length" => .modelLength
  | some "tool_calls" | some "function_call" => .toolCalls
  | some "content_filter" => .contentFilter
  | _ => .unknown

/-- A reason as JSON. -/
def toJson (reason : StopReason) : Value := .text reason.name

/-- The reason with a name. -/
def ofName (name : String) : Except Mismatch StopReason :=
  match all.find? (·.name = name) with
  | some reason => .ok reason
  | none => .error (.unknownVariant name (all.map StopReason.name))

/-- Read a reason: a word, or an object with the word as its only name and nothing under it. -/
def ofJson : Decoder StopReason
  | .text name => ofName name
  | .object [(name, value)] => do
    let reason ← ofName name
    match value with
    | .null => .ok reason
    | value => Decode.refuse "unit" value
  | .object _ => .error .notOneMember
  | value => Decode.refuse "string or map" value

end StopReason

/-- One of the messages that a model offers. -/
structure Choice where
  message : Message
  stopReason : StopReason

/-- How many tokens a call took. -/
structure Usage where
  input : UInt64
  output : UInt64
  total : UInt64
deriving DecidableEq

/-- What a model returns for a call. -/
structure Output where
  model : String
  choices : List Choice
  usage : Option Usage
  error : Option String

namespace Choice

/-- A choice as JSON. -/
def toJson (choice : Choice) : Value :=
  .object [("message", choice.message.toJson), ("stop_reason", choice.stopReason.toJson)]

/-- Read a choice. -/
def ofJson : Decoder Choice :=
  Decode.record "struct ChatCompletionChoice" 2 false
    (fun members => do
      let message ← members.field? "message" Message.ofJson
      let stopReason ← members.field? "stop_reason" StopReason.ofJson
      let message ← Decode.required "message" message
      let stopReason ← Decode.required "stop_reason" stopReason
      .ok ⟨message, stopReason⟩)
    (fun row => do
      let message ← row.item 0 Message.ofJson
      let stopReason ← row.item 1 StopReason.ofJson
      .ok ⟨message, stopReason⟩)

end Choice

namespace Usage

/-- Token counts as JSON. -/
def toJson (usage : Usage) : Value :=
  .object [("input_tokens", .nat usage.input.toNat), ("output_tokens", .nat usage.output.toNat),
    ("total_tokens", .nat usage.total.toNat)]

/-- Read token counts. -/
def ofJson : Decoder Usage :=
  Decode.record "struct ModelUsage" 3 false
    (fun members => do
      let input ← members.field? "input_tokens" Decode.word64
      let output ← members.field? "output_tokens" Decode.word64
      let total ← members.field? "total_tokens" Decode.word64
      let input ← Decode.required "input_tokens" input
      let output ← Decode.required "output_tokens" output
      let total ← Decode.required "total_tokens" total
      .ok ⟨input, output, total⟩)
    (fun row => do
      let input ← row.item 0 Decode.word64
      let output ← row.item 1 Decode.word64
      let total ← row.item 2 Decode.word64
      .ok ⟨input, output, total⟩)

end Usage

namespace Output

/-- The output of a model before it was asked. -/
def empty (model : String) : Output := ⟨model, [], none, none⟩

/-- An output with a single text. -/
def ofText (model text : String) (stopReason : StopReason) (error : Option String) : Output :=
  ⟨model, [⟨.generated text model [], stopReason⟩], none, error⟩

/-- The text of the first choice, which is empty when there is none. -/
def completion (output : Output) : String :=
  match output.choices with
  | [] => ""
  | choice :: _ => choice.message.text

/-- Why the first choice ended. -/
def stopReason? (output : Output) : Option StopReason :=
  output.choices.head?.map Choice.stopReason

/-- An output as JSON, without usage and error when there are none. -/
def toJson (output : Output) : Value :=
  .ofFields [("choices", some (.list (output.choices.map Choice.toJson))),
    ("error", output.error.map .text), ("model", some (.text output.model)),
    ("usage", output.usage.map Usage.toJson)]

/-- Read an output. -/
def ofJson : Decoder Output :=
  Decode.record "struct ModelOutput" 4 false
    (fun members => do
      let choices ← members.field? "choices" (Decode.list Choice.ofJson)
      let error ← members.field? "error" (Decode.nullable Decode.text)
      let model ← members.field? "model" Decode.text
      let usage ← members.field? "usage" (Decode.nullable Usage.ofJson)
      let model ← Decode.required "model" model
      let choices ← Decode.required "choices" choices
      .ok ⟨model, choices, usage.join, error.join⟩)
    (fun row => do
      let model ← row.item 0 Decode.text
      let choices ← row.item 1 (Decode.list Choice.ofJson)
      let usage ← row.item 2 (Decode.nullable Usage.ofJson)
      let error ← row.item 3 (Decode.nullable Decode.text)
      .ok ⟨model, choices, usage, error⟩)

end Output
end Assay
