import Assay.Tool

/-!
# Messages

A conversation is a list of messages, each with a role and a content. The content is a text or a
list of parts, of which some hold text. The text of a message is the text of its content, which
for parts is that of the text parts on a line each.
-/
namespace Assay

open Json

/-- A piece of content. -/
inductive Part where
  | text (content : String)
  | image (source : String)
deriving DecidableEq

/-- What a message says. -/
inductive Content where
  | text (content : String)
  | parts (items : List Part)
deriving DecidableEq

/-- One turn of a conversation. -/
inductive Message where
  | system (content : Content)
  | user (content : Content)
  | assistant (content : Content) (toolCalls : List ToolCall) (model source : Option String)
  | tool (content : Content) (callId function : Option String)

namespace Part

/-- The text of a part that holds text. -/
def text? : Part → Option String
  | .text content => some content
  | .image _ => none

/-- A part as JSON. -/
def toJson : Part → Value
  | .text content => .object [("text", .text content), ("type", .text "text")]
  | .image source => .object [("image", .text source), ("type", .text "image")]

/-- A part of a kind, which is a word or its number, with the one text it holds. -/
def ofKind? : (kind : Value) → (content? : String → Option Value) → Option Part
  | .text "text", content? | .int 0, content? =>
    match content? "text" with
    | some (.text content) => some (.text content)
    | _ => none
  | .text "image", content? | .int 1, content? =>
    match content? "image" with
    | some (.text source) => some (.image source)
    | _ => none
  | _, _ => none

/-- Read a part: an object with a kind, or a list of the kind and what it holds. -/
def ofJson? : Value → Option Part
  | .object members => do
    let kind ← Members.get? "type" members
    ofKind? kind fun name => Members.get? name members
  | .list [kind, content] => ofKind? kind fun _ => some content
  | _ => none

end Part

namespace Content

/-- The text of a content. Parts without text are left out. -/
def toText : Content → String
  | .text content => content
  | .parts items => "\n".intercalate (items.filterMap Part.text?)

/-- A content as JSON. -/
def toJson : Content → Value
  | .text content => .text content
  | .parts items => .list (items.map Part.toJson)

/-- Read a content. What is neither a text nor a list of parts has no further explanation. -/
def ofJson : Decoder Content
  | .text content => .ok (.text content)
  | .list values =>
    match values.mapM Part.ofJson? with
    | some items => .ok (.parts items)
    | none => .error (.noForm "Content")
  | _ => .error (.noForm "Content")

end Content

/-- The part that a message has in a conversation. -/
inductive Role where
  | system
  | user
  | assistant
  | tool
deriving DecidableEq

namespace Role

/-- The roles in order. -/
def all : List Role := [.system, .user, .assistant, .tool]

/-- The word for a role. -/
def name : Role → String
  | .system => "system"
  | .user => "user"
  | .assistant => "assistant"
  | .tool => "tool"

/-- The record that a message of a role is, as messages name it. -/
def record : Role → String
  | .system => "struct variant ChatMessage::System"
  | .user => "struct variant ChatMessage::User"
  | .assistant => "struct variant ChatMessage::Assistant"
  | .tool => "struct variant ChatMessage::Tool"

/-- Read a role. -/
def ofJson : Decoder Role
  | .text name =>
    match all.find? (·.name = name) with
    | some role => .ok role
    | none => .error (.unknownVariant name (all.map Role.name))
  | value => Decode.refuse "variant identifier" value

end Role

namespace Message

/-- A user message with a text. -/
def ofUser (text : String) : Message := .user (.text text)

/-- The message of a model that answers with a text and tool calls. -/
def generated (text model : String) (toolCalls : List ToolCall) : Message :=
  .assistant (.text text) toolCalls (some model) (some "generate")

/-- The role of a message. -/
def role : Message → Role
  | .system .. => .system
  | .user .. => .user
  | .assistant .. => .assistant
  | .tool .. => .tool

/-- Whether a message is the user's. -/
def isUser : Message → Bool
  | .user .. => true
  | _ => false

/-- The content of a message. -/
def content : Message → Content
  | .system content | .user content | .assistant content .. | .tool content .. => content

/-- The text of a message. -/
def text (message : Message) : String := message.content.toText

/-- The tool calls of a message. -/
def toolCalls : Message → List ToolCall
  | .assistant _ toolCalls _ _ => toolCalls
  | _ => []

/-- A message with another text and all else kept. -/
def withText (message : Message) (text : String) : Message :=
  match message with
  | .system _ => .system (.text text)
  | .user _ => .user (.text text)
  | .assistant _ toolCalls model source => .assistant (.text text) toolCalls model source
  | .tool _ callId function => .tool (.text text) callId function

/-- A message as JSON: its role beside its fields, without those that are absent or empty. -/
def toJson (message : Message) : Value :=
  let role := ("role", some (Value.text message.role.name))
  let content := ("content", some message.content.toJson)
  match message with
  | .system _ | .user _ => .ofFields [content, role]
  | .assistant _ toolCalls model source =>
    .ofFields [content, ("model", model.map .text), role, ("source", source.map .text),
      ("tool_calls",
        if toolCalls.isEmpty then none else some (.list (toolCalls.map ToolCall.toJson)))]
  | .tool _ callId function =>
    .ofFields [content, ("function", function.map .text), role,
      ("tool_call_id", callId.map .text)]

/-- Read the fields of a message with a role. -/
def ofMembers (role : Role) (members : Members) : Except Mismatch Message :=
  match role with
  | .system => do
    let content ← members.field? "content" Content.ofJson
    .ok (.system (← Decode.required "content" content))
  | .user => do
    let content ← members.field? "content" Content.ofJson
    .ok (.user (← Decode.required "content" content))
  | .assistant => do
    let content ← members.field? "content" Content.ofJson
    let model ← members.field? "model" (Decode.nullable Decode.text)
    let source ← members.field? "source" (Decode.nullable Decode.text)
    let toolCalls ← members.field? "tool_calls" (Decode.list (ToolCall.reader true))
    let content ← Decode.required "content" content
    .ok (.assistant content (toolCalls.getD []) model.join source.join)
  | .tool => do
    let content ← members.field? "content" Content.ofJson
    let function ← members.field? "function" (Decode.nullable Decode.text)
    let callId ← members.field? "tool_call_id" (Decode.nullable Decode.text)
    let content ← Decode.required "content" content
    .ok (.tool content callId.join function.join)

/-- Read the fields of a message with a role from a list. -/
def ofRow (role : Role) (row : Row) : Except Mismatch Message := do
  let content ← row.item 0 Content.ofJson
  match role with
  | .system => .ok (.system content)
  | .user => .ok (.user content)
  | .assistant =>
    let toolCalls ← row.item? 1 (Decode.list (ToolCall.reader true))
    let model ← row.item? 2 (Decode.nullable Decode.text)
    let source ← row.item? 3 (Decode.nullable Decode.text)
    .ok (.assistant content (toolCalls.getD []) model.join source.join)
  | .tool =>
    let callId ← row.item? 1 (Decode.nullable Decode.text)
    let function ← row.item? 2 (Decode.nullable Decode.text)
    .ok (.tool content callId.join function.join)

/-- How many fields a message of a role has beside the role. -/
def fieldCount : Role → Nat
  | .system | .user => 1
  | .assistant => 4
  | .tool => 3

/-- Read a message: an object with a role among its members, or a list of a role and the fields.
The role is read first. -/
def ofJson : Decoder Message
  | .object members =>
    match Members.get? "role" members with
    | none => .error (.missing "role")
    | some role => do ofMembers (← Role.ofJson role) members
  | .list [] => .error (.missing "role")
  | .list (role :: fields) => do
    let role ← Role.ofJson role
    Decode.record role.record (fieldCount role) true (ofMembers role) (ofRow role) (.list fields)
  | value => Decode.refuse "internally tagged enum ChatMessage" value

end Message
end Assay
