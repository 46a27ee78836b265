import Assay.Inquiry
import Assay.Sample
import Assay.Text.Template

/-!
# Attempts

An attempt is the state of one sample while the steps of a plan are taken: the conversation so
far, the tools on offer and the last output. It starts with the question of the sample as the
user's only message.
-/
namespace Assay

/-- A sample on its way through a plan. -/
structure Attempt where
  sample : Sample
  messages : List Message
  tools : List Tool
  choice : Option ToolChoice
  output : Output

/-- A step of a plan. -/
inductive Step where
  /-- Put the user's last message into a template. -/
  | prompt (template : String)
  /-- Offer other tools from here on. -/
  | equip (tools : List Tool) (choice : Option ToolChoice)
  /-- Ask the model. -/
  | generate

namespace Attempt

/-- The attempt at a sample by a model before the first step. -/
def start (sample : Sample) (model : String) : Attempt where
  sample := sample
  messages := [.ofUser sample.input]
  tools := []
  choice := none
  output := .empty model

/-- Messages with a change to the last one of the user, if there is one. -/
def changeLastUser? (change : Message → Message) : List Message → Option (List Message)
  | [] => none
  | message :: later =>
    match changeLastUser? change later with
    | some later => some (message :: later)
    | none => if message.isUser then some (change message :: later) else none

/-- A message with its text put into a template. The metadata of the sample that are texts fill
the placeholders of their names, after the text of the message has filled its own. -/
def dress (sample : Sample) (template : String) (message : Message) : Message :=
  message.withText (Text.fill template (("prompt", message.text) :: sample.textMetadata))

/-- The attempt after its last user message was put into a template. -/
def prompted (attempt : Attempt) (template : String) : Attempt :=
  { attempt with
    messages := (changeLastUser? (dress attempt.sample template) attempt.messages).getD
      attempt.messages }

/-- The attempt after the model returned an output, whose first choice joins the conversation. -/
def continued (attempt : Attempt) (output : Output) : Attempt :=
  { attempt with
    messages := attempt.messages ++ (output.choices.take 1).map Choice.message
    output := output }

/-- What the model is asked next. -/
def question (attempt : Attempt) (sampling : Sampling) : Question :=
  ⟨attempt.messages, attempt.tools, attempt.choice, sampling⟩

end Attempt

/-- Take a step. -/
def Step.take (sampling : Sampling) (attempt : Attempt) :
    Step → ExceptT Error (Act inquiring) Attempt
  | .prompt template => pure (attempt.prompted template)
  | .equip tools choice => pure { attempt with tools := tools, choice := choice }
  | .generate => do
    let generation ← Party.model.ask (attempt.question sampling)
    pure (attempt.continued generation.output)

/-- Take the steps of a plan in order. -/
def Attempt.follow (sampling : Sampling) (attempt : Attempt) :
    (plan : List Step) → ExceptT Error (Act inquiring) Attempt
  | [] => pure attempt
  | step :: plan => do
    let attempt ← step.take sampling attempt
    attempt.follow sampling plan

end Assay
