import Assay.Failure
import Assay.Output
import Assay.Sampling

/-!
# Generations

A question is what a model is asked: a conversation, the tools it may use, and how to sample. A
generation is what came of asking. A call that failed has an output too, whose only text is the
wording of the failure.
-/
namespace Assay

open Json

/-- What a model is asked. -/
structure Question where
  messages : List Message
  tools : List Tool
  choice : Option ToolChoice
  sampling : Sampling

/-- What went over the wire in a call. -/
structure Exchange where
  request : Value
  response : Value

/-- What came of a call. -/
structure Generation where
  output : Output
  exchange : Option Exchange
  failure : Option Failure

namespace Generation

/-- A call that returned an output. -/
def success (output : Output) (exchange : Exchange) : Generation :=
  ⟨output, some exchange, none⟩

/-- A call that failed. -/
def ofFailure (model : String) (failure : Failure) (exchange : Exchange) : Generation :=
  ⟨.ofText model failure.message .unknown (some failure.message), some exchange, some failure⟩

end Generation
end Assay
