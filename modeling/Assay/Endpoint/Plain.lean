import Assay.Endpoint.Posting

/-!
# Plain endpoints

A plain endpoint takes one text and replies with one. Of a conversation it is sent the text of
the user's last message, or of the last message when there is none of the user. It knows neither
tools nor parameters.
-/
namespace Assay.Endpoint

open Json

/-- An endpoint that takes texts. -/
structure Plain where
  model : String
  /-- Where the endpoint is, without a slash at the end. -/
  address : String
  timeout : Option Duration
  isOpen : Bool := true

namespace Plain

/-- The text that stands for a conversation. -/
def textOf (messages : List Message) : String :=
  let latest := messages.reverse
  match (latest.find? Message.isUser).or latest.head? with
  | some message => message.text
  | none => ""

/-- The request for a conversation. -/
def request (messages : List Message) : Value :=
  .object [("input", .text (textOf messages))]

/-- The text of a reply. -/
def replyText : Decoder String :=
  Decode.record "struct MockResponse" 1 false
    (fun members => do Decode.required "content" (← members.field? "content" Decode.text))
    (fun row => row.item 0 Decode.text)

/-- The only status that is a success. -/
def accepts (status : Nat) : Bool := status == 200

/-- Where texts are posted below the address of an endpoint. -/
def path : String := "/mock-llm-response"

/-- What the body of a success stands for. -/
def read (model : String) : Decoder Output := fun response =>
  (replyText response).map fun text => .ofText model text .stop none

/-- Ask a plain endpoint. -/
def generate (plain : Plain) (question : Question) : Act world Generation := do
  let request := request question.messages
  let answer ← send plain.isOpen (plain.address ++ path) none plain.timeout request
  pure (conclude plain.model accepts (read plain.model) request answer)

end Plain
end Assay.Endpoint
