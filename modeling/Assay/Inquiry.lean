import Assay.Act
import Assay.Generation
import Assay.Error

/-!
# Inquiries

An evaluation speaks with two parties, the model that is evaluated and the grader. An inquiry is
a question to one of them, and its answer is a generation that is final: either the party
answered, or it failed for good. A party that does not let the caller in ends the evaluation of
a sample with an error.
-/
namespace Assay

/-- Who is asked. -/
inductive Party where
  | model
  | grader
deriving DecidableEq

/-- A question to a party. -/
structure Inquiry where
  party : Party
  question : Question

/-- Inquiries and their final answers. -/
abbrev inquiring : Interface := ⟨Inquiry, fun _ => Except Error Generation⟩

/-- Ask a party for a final answer. -/
def Party.ask (party : Party) (question : Question) : ExceptT Error (Act inquiring) Generation :=
  Act.request (I := inquiring) ⟨party, question⟩

end Assay
