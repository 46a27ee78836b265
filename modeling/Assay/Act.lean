/-!
# Programs that ask their surroundings

A program either is done or performs an event and goes on with the answer to it. What an event
means is left to a handler: `run` answers events from a state, `runIn` answers them in a monad,
and `interpret` answers each of them by a program over other events. Programs are finite, so all
three end.
-/
namespace Assay

/-- The events that a program may perform, and what answers them. -/
structure Interface where
  Event : Type
  Answer : Event → Type

/-- A program over an interface. -/
inductive Act (I : Interface) (α : Type) where
  | done (value : α)
  | perform (event : I.Event) (next : I.Answer event → Act I α)

namespace Act

variable {I J : Interface} {α β : Type}

/-- Perform one event and return its answer. -/
def request (event : I.Event) : Act I (I.Answer event) := .perform event .done

/-- Go on with the value of a program. -/
def bind (program : Act I α) (next : α → Act I β) : Act I β :=
  match program with
  | .done value => next value
  | .perform event more => .perform event fun answer => (more answer).bind next

instance : Monad (Act I) where
  pure := .done
  bind := Act.bind

/-- A program followed by nothing is that program. -/
theorem bind_done (program : Act I α) : program.bind .done = program := by
  induction program with
  | done => rfl
  | perform event next ih => simp [bind, ih]

/-- It does not matter how programs that follow one another are grouped. -/
theorem bind_assoc {γ : Type} (program : Act I α) (second : α → Act I β) (third : β → Act I γ) :
    (program.bind second).bind third = program.bind fun value => (second value).bind third := by
  induction program with
  | done => rfl
  | perform event next ih => simp [bind, ih]

instance : LawfulMonad (Act I) :=
  LawfulMonad.mk' (Act I) bind_done (fun _ _ => rfl) bind_assoc

/-- Programs one after the other, with their values in order. -/
def inTurn : List (Act I α) → Act I (List α)
  | [] => .done []
  | program :: programs =>
    program.bind fun value => (inTurn programs).bind fun values => .done (value :: values)

/-- Run a program, where a state answers its events. -/
def run {σ : Type} (answer : σ → (event : I.Event) → I.Answer event × σ) (state : σ) :
    Act I α → α × σ
  | .done value => (value, state)
  | .perform event next =>
    let (reply, state) := answer state event
    run answer state (next reply)

/-- Run a program in a monad that answers its events. -/
def runIn {m : Type → Type} [Monad m] (answer : (event : I.Event) → m (I.Answer event)) :
    Act I α → m α
  | .done value => pure value
  | .perform event next => do runIn answer (next (← answer event))

/-- A program over other events, where a program stands for each event. -/
def interpret (answer : (event : I.Event) → Act J (I.Answer event)) : Act I α → Act J α
  | .done value => .done value
  | .perform event next => (answer event).bind fun reply => interpret answer (next reply)

end Act
end Assay
