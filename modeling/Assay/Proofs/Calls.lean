import Assay.Retry

/-!
# The calls of a program

A program that is run against a state makes calls, and each of them has a reply. This module says
what running does to programs that follow one another, and to programs in which another program
stands for each event: the second is the ground on which a fact about a single inquiry becomes a
fact about a whole evaluation. Two states that answer alike, step by step, cannot be told apart
by any program.
-/
namespace Assay

/-- How a state answers events and what becomes of it. -/
abbrev Handler (I : Interface) (σ : Type) := σ → (event : I.Event) → I.Answer event × σ

/-- A call that was made, with what came of it. -/
structure Call where
  party : Party
  question : Question
  reply : Generation

namespace Act

variable {I J : Interface} {α β σ τ : Type}

/-- An event is answered before the program goes on. -/
theorem run_perform (answer : Handler I σ) (state : σ) (event : I.Event)
    (next : I.Answer event → Act I α) :
    (perform event next).run answer state =
      (next (answer state event).1).run answer (answer state event).2 := rfl

/-- What follows a program runs from where the program ended. -/
theorem run_bind (answer : Handler I σ) (state : σ) (program : Act I α) (next : α → Act I β) :
    (program.bind next).run answer state =
      (next (program.run answer state).1).run answer (program.run answer state).2 := by
  induction program generalizing state with
  | done value => rfl
  | perform event more ih => exact ih _ _

/-- A program that stands for each event of another may as well answer these events. -/
theorem run_interpret (step : (event : I.Event) → Act J (I.Answer event)) (answer : Handler J σ)
    (state : σ) (program : Act I α) :
    (program.interpret step).run answer state =
      program.run (fun state event => (step event).run answer state) state := by
  induction program generalizing state with
  | done value => rfl
  | perform event more ih =>
    rw [interpret, run_bind]
    exact ih _ _

/-- A program that stands for each event stands for those of both programs in a row. -/
theorem interpret_bind (step : (event : I.Event) → Act J (I.Answer event)) (program : Act I α)
    (next : α → Act I β) :
    (program.bind next).interpret step =
      (program.interpret step).bind fun value => (next value).interpret step := by
  induction program with
  | done value => rfl
  | perform event more ih => simp only [bind, interpret, bind_assoc, ih]

/-- A program that stands for each event stands for those of programs one after the other. -/
theorem interpret_inTurn (step : (event : I.Event) → Act J (I.Answer event))
    (programs : List (Act I α)) :
    (inTurn programs).interpret step = inTurn (programs.map (interpret step)) := by
  induction programs with
  | nil => rfl
  | cons program programs ih =>
    simp only [inTurn, List.map_cons, interpret_bind, ih]
    rfl

/-- States that answer every event alike, and stay related by it, give a program the same
value. -/
theorem run_related {first : Handler I σ} {second : Handler I τ} (related : σ → τ → Prop)
    (step : ∀ s t, related s t → ∀ event, (first s event).1 = (second t event).1 ∧
      related (first s event).2 (second t event).2)
    {s : σ} {t : τ} (start : related s t) (program : Act I α) :
    (program.run first s).1 = (program.run second t).1 ∧
      related (program.run first s).2 (program.run second t).2 := by
  induction program generalizing s t with
  | done value => exact ⟨rfl, start⟩
  | perform event next ih =>
    obtain ⟨same, later⟩ := step s t start event
    rw [run_perform, run_perform, same]
    exact ih _ later

/-- The calls that a program makes while a state answers its events, in order. -/
def calls (answer : Handler calling σ) (state : σ) : Act calling α → List Call
  | .done _ => []
  | .perform (.call party question) next =>
    let (reply, state) := answer state (.call party question)
    ⟨party, question, reply⟩ :: calls answer state (next reply)
  | .perform (.wait span) next =>
    let (reply, state) := answer state (.wait span)
    calls answer state (next reply)

/-- A call comes before the calls of what follows it. -/
theorem calls_call (answer : Handler calling σ) (state : σ) (party : Party) (question : Question)
    (next : Generation → Act calling α) :
    (perform (I := calling) (.call party question) next).calls answer state =
      ⟨party, question, (answer state (.call party question)).1⟩ ::
        (next (answer state (.call party question)).1).calls answer
          (answer state (.call party question)).2 := rfl

/-- A pause is no call. -/
theorem calls_wait (answer : Handler calling σ) (state : σ) (span : Duration)
    (next : Unit → Act calling α) :
    (perform (I := calling) (.wait span) next).calls answer state =
      (next (answer state (.wait span)).1).calls answer (answer state (.wait span)).2 := rfl

/-- The calls of what follows a program come after the calls of the program. -/
theorem calls_bind (answer : Handler calling σ) (state : σ) (program : Act calling α)
    (next : α → Act calling β) :
    (program.bind next).calls answer state = program.calls answer state ++
      (next (program.run answer state).1).calls answer (program.run answer state).2 := by
  induction program generalizing state with
  | done value => rfl
  | perform event more ih =>
    cases event with
    | call party question => exact congrArg _ (ih _ _)
    | wait span => exact ih _ _

end Act
end Assay
