import Assay.Json.Decode

/-!
# Tools

A tool is a function that a model may ask its caller to run. Tools are offered together with a
policy of choosing among them; a model that uses one answers with a call, whose arguments are
any JSON value.
-/
namespace Assay

open Json

/-- A function offered to a model. -/
structure Tool where
  name : String
  description : String
  /-- A schema of the arguments. -/
  parameters : Value

/-- Whether a model calls a tool, and which. -/
inductive ToolChoice where
  | auto
  | none
  | any
  | function (name : String)
deriving DecidableEq

/-- A model's request to run a tool. -/
structure ToolCall where
  id : String
  function : String
  arguments : Value
  kind : String

namespace Tool

/-- A tool as JSON. -/
def toJson (tool : Tool) : Value :=
  .object [("description", .text tool.description), ("name", .text tool.name),
    ("parameters", tool.parameters)]

/-- Read a tool. -/
def ofJson : Decoder Tool :=
  Decode.record "struct ToolInfo" 3 false
    (fun members => do
      let description ← members.field? "description" Decode.text
      let name ← members.field? "name" Decode.text
      let parameters := members.get? "parameters"
      let name ← Decode.required "name" name
      let description ← Decode.required "description" description
      let parameters ← Decode.required "parameters" parameters
      .ok ⟨name, description, parameters⟩)
    (fun row => do
      let name ← row.item 0 Decode.text
      let description ← row.item 1 Decode.text
      let parameters ← row.item 2 Decode.any
      .ok ⟨name, description, parameters⟩)

end Tool

/-- A choice among tools as JSON: a word, or the function that has to be called. -/
def ToolChoice.toJson : ToolChoice → Value
  | .auto => .text "auto"
  | .none => .text "none"
  | .any => .text "any"
  | .function name =>
    .object [("function", .object [("name", .text name)]), ("type", .text "function")]

namespace ToolCall

/-- A call as JSON. -/
def toJson (call : ToolCall) : Value :=
  .object [("arguments", call.arguments), ("function", .text call.function),
    ("id", .text call.id), ("type", .text call.kind)]

/-- Read a call. `tellsFields` is the wording for a list that is too long. -/
def reader (tellsFields : Bool) : Decoder ToolCall :=
  Decode.record "struct ToolCall" 4 tellsFields
    (fun members => do
      let arguments := members.get? "arguments"
      let function ← members.field? "function" Decode.text
      let id ← members.field? "id" Decode.text
      let kind ← members.field? "type" Decode.text
      let id ← Decode.required "id" id
      let function ← Decode.required "function" function
      let arguments ← Decode.required "arguments" arguments
      let kind ← Decode.required "type" kind
      .ok ⟨id, function, arguments, kind⟩)
    (fun row => do
      let id ← row.item 0 Decode.text
      let function ← row.item 1 Decode.text
      let arguments ← row.item 2 Decode.any
      let kind ← row.item 3 Decode.text
      .ok ⟨id, function, arguments, kind⟩)

/-- Read a call that stands by itself. -/
def ofJson : Decoder ToolCall := reader false

end ToolCall
end Assay
