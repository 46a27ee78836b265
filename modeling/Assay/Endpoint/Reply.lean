import Assay.Json.Parser
import Assay.Output

/-!
# Replies of a chat endpoint

A chat endpoint replies with a list of choices, the name of a model and token counts, all of
which it may leave out. What is left out is filled in: an unnamed model is the one that was asked,
a choice without a finish reason came to a natural end, and a reply without any count has no
usage. The arguments of a tool call are a value or a text that holds one.
-/
namespace Assay.Endpoint

open Json

/-- The function of a tool call in a reply. -/
structure ReplyFunction where
  name : Option String := none
  arguments : Option Value := none

/-- A tool call in a reply. -/
structure ReplyCall where
  id : Option String
  function : Option ReplyFunction
  kind : Option String

/-- The message of a choice in a reply. -/
structure ReplyMessage where
  role : Option String := none
  content : Option String := none
  toolCalls : Option (List ReplyCall) := none

/-- A choice in a reply. -/
structure ReplyChoice where
  index : Option UInt32
  message : ReplyMessage
  finishReason : Option String

/-- The token counts of a reply. -/
structure ReplyUsage where
  prompt : Option UInt64
  completion : Option UInt64
  total : Option UInt64

/-- What a chat endpoint replies. -/
structure Reply where
  id : Option String
  model : Option String
  choices : List ReplyChoice
  usage : Option ReplyUsage

namespace ReplyFunction

/-- Read the function of a tool call. -/
def ofJson : Decoder ReplyFunction :=
  Decode.record "struct ResponseFunction" 2 false
    (fun members => do
      let arguments ← members.field? "arguments" (Decode.nullable Decode.any)
      let name ← members.field? "name" (Decode.nullable Decode.text)
      .ok ⟨name.join, arguments.join⟩)
    (fun row => do
      let name ← row.item? 0 (Decode.nullable Decode.text)
      let arguments ← row.item? 1 (Decode.nullable Decode.any)
      .ok ⟨name.join, arguments.join⟩)

/-- The arguments that a function was given: none are an empty object, and a text counts as the
value it holds, if it holds one. -/
def argumentValue (function : ReplyFunction) : Value :=
  match function.arguments with
  | none | some .null => .object []
  | some (.text content) =>
    match parse content with
    | .ok value => value
    | .error _ => .text content
  | some value => value

end ReplyFunction

namespace ReplyCall

/-- Read a tool call. -/
def ofJson : Decoder ReplyCall :=
  Decode.record "struct ResponseToolCall" 3 false
    (fun members => do
      let function ← members.field? "function" (Decode.nullable ReplyFunction.ofJson)
      let id ← members.field? "id" (Decode.nullable Decode.text)
      let kind ← members.field? "type" (Decode.nullable Decode.text)
      .ok ⟨id.join, function.join, kind.join⟩)
    (fun row => do
      let id ← row.item? 0 (Decode.nullable Decode.text)
      let function ← row.item? 1 (Decode.nullable ReplyFunction.ofJson)
      let kind ← row.item? 2 (Decode.nullable Decode.text)
      .ok ⟨id.join, function.join, kind.join⟩)

/-- The tool call that a reply stands for. -/
def toCall (call : ReplyCall) : ToolCall :=
  let function := call.function.getD {}
  ⟨call.id.getD "", function.name.getD "", function.argumentValue, call.kind.getD "function"⟩

end ReplyCall

/-- Read the message of a choice. -/
def ReplyMessage.ofJson : Decoder ReplyMessage :=
  Decode.record "struct ResponseMessage" 3 false
    (fun members => do
      let content ← members.field? "content" (Decode.nullable Decode.text)
      let role ← members.field? "role" (Decode.nullable Decode.text)
      let toolCalls ← members.field? "tool_calls" (Decode.nullable (Decode.list ReplyCall.ofJson))
      .ok ⟨role.join, content.join, toolCalls.join⟩)
    (fun row => do
      let role ← row.item? 0 (Decode.nullable Decode.text)
      let content ← row.item? 1 (Decode.nullable Decode.text)
      let toolCalls ← row.item? 2 (Decode.nullable (Decode.list ReplyCall.ofJson))
      .ok ⟨role.join, content.join, toolCalls.join⟩)

namespace ReplyChoice

/-- Read a choice. An absent finish reason is a natural end, while a null is no reason. -/
def ofJson : Decoder ReplyChoice :=
  Decode.record "struct ResponseChoice" 3 false
    (fun members => do
      let finishReason ← members.field? "finish_reason" (Decode.nullable Decode.text)
      let index ← members.field? "index" (Decode.nullable Decode.word32)
      let message ← members.field? "message" ReplyMessage.ofJson
      .ok ⟨index.join, message.getD {}, finishReason.getD (some "stop")⟩)
    (fun row => do
      let index ← row.item? 0 (Decode.nullable Decode.word32)
      let message ← row.item? 1 ReplyMessage.ofJson
      let finishReason ← row.item? 2 (Decode.nullable Decode.text)
      .ok ⟨index.join, message.getD {}, finishReason.getD (some "stop")⟩)

/-- The choice that a reply of a model stands for. -/
def toChoice (model : String) (choice : ReplyChoice) : Choice where
  message := .generated (choice.message.content.getD "") model
    ((choice.message.toolCalls.getD []).map ReplyCall.toCall)
  stopReason := .ofWord? choice.finishReason

end ReplyChoice

namespace ReplyUsage

/-- Read token counts. -/
def ofJson : Decoder ReplyUsage :=
  Decode.record "struct ResponseUsage" 3 false
    (fun members => do
      let completion ← members.field? "completion_tokens" (Decode.nullable Decode.word64)
      let prompt ← members.field? "prompt_tokens" (Decode.nullable Decode.word64)
      let total ← members.field? "total_tokens" (Decode.nullable Decode.word64)
      .ok ⟨prompt.join, completion.join, total.join⟩)
    (fun row => do
      let prompt ← row.item? 0 (Decode.nullable Decode.word64)
      let completion ← row.item? 1 (Decode.nullable Decode.word64)
      let total ← row.item? 2 (Decode.nullable Decode.word64)
      .ok ⟨prompt.join, completion.join, total.join⟩)

/-- The usage that token counts stand for, if there is any count. -/
def toUsage? (usage : ReplyUsage) : Option Usage :=
  if usage.prompt.isNone && usage.completion.isNone && usage.total.isNone then none
  else some ⟨usage.prompt.getD 0, usage.completion.getD 0, usage.total.getD 0⟩

end ReplyUsage

namespace Reply

/-- Read a reply. -/
def ofJson : Decoder Reply :=
  Decode.record "struct ResponsePayload" 4 false
    (fun members => do
      let choices ← members.field? "choices" (Decode.list ReplyChoice.ofJson)
      let id ← members.field? "id" (Decode.nullable Decode.text)
      let model ← members.field? "model" (Decode.nullable Decode.text)
      let usage ← members.field? "usage" (Decode.nullable ReplyUsage.ofJson)
      .ok ⟨id.join, model.join, choices.getD [], usage.join⟩)
    (fun row => do
      let id ← row.item? 0 (Decode.nullable Decode.text)
      let model ← row.item? 1 (Decode.nullable Decode.text)
      let choices ← row.item? 2 (Decode.list ReplyChoice.ofJson)
      let usage ← row.item? 3 (Decode.nullable ReplyUsage.ofJson)
      .ok ⟨id.join, model.join, choices.getD [], usage.join⟩)

/-- The output that a reply stands for, where `asked` is the model that was asked. -/
def toOutput (asked : String) (reply : Reply) : Output :=
  let model := reply.model.getD asked
  let usage := reply.usage.bind ReplyUsage.toUsage?
  ⟨model, reply.choices.map (ReplyChoice.toChoice model), usage, none⟩

end Reply
end Assay.Endpoint
