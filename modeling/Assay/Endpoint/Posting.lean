import Assay.Generation
import Assay.Json.Parser
import Assay.World

/-!
# Posting a question

Whatever comes of posting a request, there is a generation that records it. The response is
recorded when the endpoint accepted the request and answered in JSON, also when the answer then
cannot be used; otherwise the record holds an empty object.
-/
namespace Assay.Endpoint

open Json

/-- The failure of a call whose answer is not whole. Only where it was not whole in time does this
count as an answer that did not come back. -/
def cutShort (timedOut : Bool) : Failure :=
  let message := "error decoding response body"
  if timedOut then .transport message true else .unexpected message

/-- The status and the text that a request was answered with, or why there is no answer. -/
def answerOf (url : Url) : Delivery → Except Failure (Nat × String)
  | .answered status body => .ok (status, String.ofList (Text.ofBytes body))
  | .cutShort timedOut => .error (cutShort timedOut)
  | .unanswered timedOut =>
    .error (.transport ("error sending request for url (" ++ url.toText ++ ")") timedOut)

/-- Send a request to an address, if requests can be sent there. -/
def send (isOpen : Bool) (address : String) (authorization : Option String)
    (timeout : Option Duration) (request : Value) : Act world (Except Failure (Nat × String)) :=
  if !isOpen then pure (.error (.unexpected "client is closed"))
  else match Url.parse? address with
    | none => pure (.error (.unexpected "builder error"))
    | some url =>
      if !url.isDestination then
        pure (.error (.unexpected ("builder error for url (" ++ url.toText ++ ")")))
      else do
        let delivery ← World.post ⟨url, authorization, request, timeout⟩
        pure (answerOf url delivery)

/-- The generation for an answer to a request. `accepts` says which statuses are a success, and
`read` is what the body of a success stands for. -/
def conclude (model : String) (accepts : Nat → Bool) (read : Decoder Output) (request : Value)
    (answer : Except Failure (Nat × String)) : Generation :=
  match answer with
  | .error failure => .ofFailure model failure ⟨request, .object []⟩
  | .ok (status, body) =>
    if !accepts status then .ofFailure model (.status status body) ⟨request, .object []⟩
    else match parse body with
      | .error fault => .ofFailure model (.unexpected fault.message) ⟨request, .object []⟩
      | .ok response =>
        match read response with
        | .error mismatch =>
          .ofFailure model (.unexpected mismatch.message) ⟨request, response⟩
        | .ok output => .success output ⟨request, response⟩

end Assay.Endpoint
