import Assay.Endpoint.Posting
import Assay.Endpoint.Reply

/-!
# Chat endpoints

A chat endpoint takes the whole conversation, the tools and the sampling parameters, and replies
with choices. Further members may be added to every request; they are inserted last and so take
the place of members of the same name.
-/
namespace Assay.Endpoint

open Json

/-- An endpoint that takes conversations. -/
structure Chat where
  model : String
  /-- Where the endpoint is, without a slash at the end. -/
  address : String
  key : Option String
  /-- The parameters of every call, where the call sets none. -/
  sampling : Sampling
  timeout : Duration
  /-- Further members of every request. -/
  extra : List (String × Value)
  isOpen : Bool := true

namespace Chat

/-- A message as it is sent. -/
def messageToJson (message : Message) : Value :=
  .object [("content", .text message.text), ("role", .text message.role.name)]

/-- A tool as it is offered. -/
def toolToJson (tool : Tool) : Value :=
  .object [("function", tool.toJson), ("type", .text "function")]

/-- The members of a request apart from the further ones. -/
def requestFields (model : String) (question : Question) : List (String × Option Value) :=
  [("model", some (.text model)),
    ("messages", some (.list (question.messages.map messageToJson))),
    ("tools",
      if question.tools.isEmpty then none else some (.list (question.tools.map toolToJson))),
    ("tool_choice", question.choice.map ToolChoice.toJson)] ++ question.sampling.fields "stop"

/-- The request for a question, with further members. -/
def request (model : String) (extra : List (String × Value)) (question : Question) : Value :=
  .ofMembers (Members.present (requestFields model question) ++ extra)

/-- The question as the endpoint is asked it: with the parameters of the call over its own. -/
def complete (chat : Chat) (question : Question) : Question :=
  { question with sampling := chat.sampling.merge question.sampling }

/-- The statuses that are a success. -/
def accepts (status : Nat) : Bool := 200 ≤ status && status ≤ 299

/-- Where conversations are posted below the address of an endpoint. -/
def path : String := "/v1/chat/completions"

/-- What the body of a success stands for. -/
def read (model : String) : Decoder Output := fun response =>
  (Reply.ofJson response).map (·.toOutput model)

/-- Ask a chat endpoint. -/
def generate (chat : Chat) (question : Question) : Act world Generation := do
  let request := request chat.model chat.extra (chat.complete question)
  let answer ← send chat.isOpen (chat.address ++ path) (chat.key.map ("Bearer " ++ ·))
    (some chat.timeout) request
  pure (conclude chat.model accepts (read chat.model) request answer)

end Chat
end Assay.Endpoint
