import Assay.Endpoint
import Assay.ModelArguments

/-!
# Providers

A model is named as `provider/model`. The provider says which kind of endpoint the model is
behind. A chat endpoint takes its address and its key from the environment where the arguments
have none; a plain one has an address of its own to fall back on.
-/
namespace Assay

open Json

/-- A kind of endpoint to connect to. -/
inductive Provider where
  | chat
  | plain
deriving DecidableEq

/-- What the environment says about chat endpoints. -/
structure Environment where
  address : Option String := none
  key : Option String := none

/-- A text, unless it is empty. -/
def filled? : Option String → Option String
  | some "" => none
  | text? => text?

/-- An address without the slashes at its end. -/
def trimSlashes (address : String) : String :=
  String.ofList ((address.toList.reverse.dropWhile (· = '/')).reverse)

namespace Endpoint

/-- Whether a character may stand in the header of a request. -/
def inHeader (c : Char) : Bool := c = '\t' || (32 ≤ c.toNat && c.toNat ≠ 127)

/-- How long an answer of a chat endpoint is waited for, unless the arguments say. -/
def Chat.defaultTimeout : Duration := .ofSeconds 60

/-- Connect to a chat endpoint. -/
def Chat.connect (environment : Environment) (model : String) (sampling : Sampling)
    (address key : Option String) (timeout : Option Duration) (extra : List (String × Value)) :
    Except Error Chat :=
  match (filled? address).or (filled? environment.address) with
  | none => .error .noDestination
  | some address =>
    let key := (filled? key).or (filled? environment.key)
    if key.all fun key => key.toList.all inHeader then
      .ok { model, address := trimSlashes address, key, sampling, extra
            timeout := timeout.getD defaultTimeout }
    else .error .unusableKey

/-- Where a plain endpoint is, unless the arguments say. -/
def Plain.defaultAddress : String := "http://localhost:3000"

/-- Connect to a plain endpoint. -/
def Plain.connect (model : String) (address : Option String) (timeout : Option Duration) :
    Plain :=
  { model, address := trimSlashes ((filled? address).getD defaultAddress), timeout }

end Endpoint

namespace Provider

/-- The name of a provider. -/
def name : Provider → String
  | .chat => "mockrest"
  | .plain => "rest_mockllm"

/-- The providers in the order of their names. -/
def all : List Provider := [.chat, .plain]

/-- Connect to the model of a provider. -/
def connect (environment : Environment) (model : String) (arguments : ModelArguments)
    (sampling : Sampling) : Provider → Except Error Endpoint
  | .chat =>
    (Endpoint.Chat.connect environment model sampling arguments.address arguments.key
      arguments.timeout arguments.extra).map .chat
  | .plain => .ok (.plain (.connect model arguments.address arguments.timeout))

end Provider

/-- Connect to the model with a name. -/
def Endpoint.named (environment : Environment) (name : String) (arguments : ModelArguments)
    (sampling : Sampling) : Except Error Endpoint :=
  match Text.cutFirst '/' name.toList with
  | none => .error (.unqualifiedModel name)
  | some (provider, model) =>
    match Provider.all.find? (·.name = String.ofList provider) with
    | none => .error (.unknownProvider (String.ofList provider) (Provider.all.map Provider.name))
    | some provider => provider.connect environment (String.ofList model) arguments sampling

end Assay
