/-!
# Failures of a model call

A call fails when the endpoint answers with a status that is no success, when no answer comes
back, or when the answer is not what was asked for. Only the first two may pass, and only a
status says that the caller is not let in.
-/
namespace Assay

/-- Why a model call has no reply. -/
inductive Failure where
  /-- The endpoint answered with a status that is no success. -/
  | status (code : Nat) (body : String)
  /-- No answer came back, or none that was whole in time. -/
  | transport (message : String) (timedOut : Bool)
  /-- The call was not made or its answer cannot be read. -/
  | unexpected (message : String)
deriving DecidableEq

namespace Failure

/-- The wording of a failure. -/
def message : Failure → String
  | .status code body => "HTTP error " ++ toString code ++ ": " ++ body
  | .transport message _ => "Request error: " ++ message
  | .unexpected message => "Unexpected error: " ++ message

/-- The status of an answer that is no success. -/
def statusCode? : Failure → Option Nat
  | .status code _ => some code
  | _ => none

/-- Whether a failure may pass: too many requests, a fault of the endpoint, or no answer. -/
def isPassing : Failure → Bool
  | .status code _ => code == 429 || 500 ≤ code
  | .transport .. => true
  | .unexpected _ => false

/-- Whether a failure says that the caller is not let in. -/
def isRefusal (failure : Failure) : Bool :=
  failure.statusCode? == some 401

/-- A refusal does not pass. -/
theorem isPassing_of_isRefusal {failure : Failure} (refused : failure.isRefusal = true) :
    failure.isPassing = false := by
  cases failure <;> simp_all [isRefusal, statusCode?, isPassing]

end Failure
end Assay
