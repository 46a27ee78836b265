import Assay.Duration
import Assay.Inquiry

/-!
# Asking again

A call that fails for a passing reason is made again after a pause, as often as the settings
allow. The first pause is as the settings say, and each later one is twice the one before it, up
to a limit. A refusal ends the matter at once, whatever else is said of it; a success and any
other failure are final.
-/
namespace Assay

/-- How a run deals with the models. -/
structure RunSettings where
  /-- How often a call may be made again. -/
  maxRetries : UInt32 := 3
  /-- How many samples may be under evaluation at a time, where zero counts as one. -/
  maxConnections : UInt64 := 8
  /-- The first pause. -/
  initialPause : Duration := .ofSeconds 1

/-- How many samples the settings want under evaluation side by side. -/
def RunSettings.lanes (settings : RunSettings) : Nat := max 1 settings.maxConnections.toNat

/-- The most lanes that there is room for. -/
def mostLanes : Nat := 2305843009213693951

/-- There is room for the lanes that the settings want. -/
def RunSettings.Permitted (settings : RunSettings) : Prop := settings.lanes ≤ mostLanes

instance (settings : RunSettings) : Decidable settings.Permitted := Nat.decLe ..

/-- What is known of a model beside its replies. -/
structure Profile where
  name : String
  /-- What names the connection to the model. -/
  connection : String
  /-- Whether a failure may pass. -/
  passing : Failure → Bool
  /-- Whether a failure says that the caller is not let in. -/
  refusal : Failure → Bool

/-- A single call to a party, or a pause. -/
inductive CallEvent where
  | call (party : Party) (question : Question)
  | wait (span : Duration)

/-- Calls and pauses with what comes of them. -/
abbrev calling : Interface where
  Event := CallEvent
  Answer
    | .call .. => Generation
    | .wait _ => Unit

/-- The longest pause that follows another. -/
def longestPause : Duration := .ofSeconds 8

/-- The pause after a pause. -/
def Duration.next (pause : Duration) : Duration := min pause.double longestPause

/-- What a generation says about calling again. -/
inductive Outcome where
  /-- The generation is final. -/
  | final
  /-- The caller is not let in. -/
  | refused (failure : Failure)
  /-- The failure may pass. -/
  | passing

/-- What a generation of a model says about calling again. A refusal goes before everything
else. -/
def Profile.outcome (profile : Profile) (generation : Generation) : Outcome :=
  match generation.failure with
  | none => .final
  | some failure =>
    if profile.refusal failure then .refused failure
    else if profile.passing failure then .passing
    else .final

/-- Ask a party until its answer is final, where `left` calls may still follow the next one. -/
def askAgain (profile : Profile) (party : Party) (question : Question) :
    (left : Nat) → (pause : Duration) → Act calling (Except Error Generation)
  | 0, _ => do
    let generation ← Act.request (I := calling) (.call party question)
    match profile.outcome generation with
    | .refused failure => pure (.error (.refused profile.connection failure))
    | _ => pure (.ok generation)
  | left + 1, pause => do
    let generation ← Act.request (I := calling) (.call party question)
    match profile.outcome generation with
    | .refused failure => pure (.error (.refused profile.connection failure))
    | .final => pure (.ok generation)
    | .passing => do
      Act.request (I := calling) (.wait pause)
      askAgain profile party question left pause.next

/-- Answer an inquiry by calls. -/
def RunSettings.settle (settings : RunSettings) (profiles : Party → Profile) (inquiry : Inquiry) :
    Act calling (Except Error Generation) :=
  askAgain (profiles inquiry.party) inquiry.party inquiry.question settings.maxRetries.toNat
    settings.initialPause

end Assay
