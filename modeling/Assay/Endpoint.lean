import Assay.Endpoint.Chat
import Assay.Endpoint.Plain
import Assay.Retry

/-!
# Endpoints

An endpoint is asked over the network. Both kinds have the same view of failures; their address
names the connection.
-/
namespace Assay

/-- A model behind an address. -/
inductive Endpoint where
  | chat (endpoint : Endpoint.Chat)
  | plain (endpoint : Endpoint.Plain)

namespace Endpoint

/-- The name of the model. -/
def model : Endpoint → String
  | .chat endpoint => endpoint.model
  | .plain endpoint => endpoint.model

/-- Where the endpoint is. -/
def address : Endpoint → String
  | .chat endpoint => endpoint.address
  | .plain endpoint => endpoint.address

/-- What is known of an endpoint beside its replies. -/
def profile (endpoint : Endpoint) : Profile :=
  ⟨endpoint.model, endpoint.address, Failure.isPassing, Failure.isRefusal⟩

/-- An endpoint that is asked no more. -/
def close : Endpoint → Endpoint
  | .chat endpoint => .chat { endpoint with isOpen := false }
  | .plain endpoint => .plain { endpoint with isOpen := false }

/-- Ask an endpoint. -/
def generate (endpoint : Endpoint) (question : Question) : Act world Generation :=
  match endpoint with
  | .chat endpoint => endpoint.generate question
  | .plain endpoint => endpoint.generate question

/-- Answer the calls of a run by two endpoints. -/
def serve (endpoints : Party → Endpoint) : (event : CallEvent) → Act world (calling.Answer event)
  | .call party question => (endpoints party).generate question
  | .wait span => World.wait span

end Endpoint
end Assay
