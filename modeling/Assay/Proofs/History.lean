import Assay.Proofs.Calls
import Assay.Saving

/-!
# What takes place

A program that is run against a state performs events, and each of them is answered. Their
history is the list of both, in order. Which events a program may perform is said of the program
alone, and holds of every history of it. For a program that may end with an error, `Ensures`
speaks of the history and the result together; there is a rule for each way in which such
programs are put together, so that a statement about a long program follows from statements about
its parts. The last section says what saving a file leaves in a history.
-/
namespace Assay

/-- An event that has taken place, with its answer. -/
structure Happening (I : Interface) where
  event : I.Event
  answer : I.Answer event

namespace Act

variable {I J : Interface} {α β σ : Type}

/-- What takes place while a program is run, in order. -/
def history (answer : Handler I σ) (state : σ) : Act I α → List (Happening I)
  | .done _ => []
  | .perform event next =>
    let (reply, state) := answer state event
    ⟨event, reply⟩ :: history answer state (next reply)

/-- An event takes place before what follows it. -/
theorem history_perform (answer : Handler I σ) (state : σ) (event : I.Event)
    (next : I.Answer event → Act I α) :
    (perform event next).history answer state =
      ⟨event, (answer state event).1⟩ ::
        (next (answer state event).1).history answer (answer state event).2 := rfl

/-- What follows a program takes place after what the program does. -/
theorem history_bind (answer : Handler I σ) (state : σ) (program : Act I α) (next : α → Act I β) :
    (program.bind next).history answer state = program.history answer state ++
      (next (program.run answer state).1).history answer (program.run answer state).2 := by
  induction program generalizing state with
  | done value => rfl
  | perform event more ih =>
    rw [bind, history_perform, history_perform, ih]
    rfl

/-- A program passes to a value by a history: what takes place is what it performs, and it goes on
with the answers. -/
inductive Passes : Act I α → List (Happening I) → α → Prop
  | done (value : α) : Passes (.done value) [] value
  | perform {event : I.Event} {next : I.Answer event → Act I α} {later : List (Happening I)}
    {value : α} (reply : I.Answer event) (rest : Passes (next reply) later value) :
    Passes (.perform event next) (⟨event, reply⟩ :: later) value

/-- A program that is run passes to its value by its history. -/
theorem passes_run (answer : Handler I σ) (state : σ) (program : Act I α) :
    program.Passes (program.history answer state) (program.run answer state).1 := by
  induction program generalizing state with
  | done value => exact .done value
  | perform event next ih => exact .perform _ (ih _ _)

/-- What has taken place was answered by some state. -/
theorem answer_of_mem_history {answer : Handler I σ} {state : σ} {program : Act I α}
    {happening : Happening I} (among : happening ∈ program.history answer state) :
    ∃ state, happening.answer = (answer state happening.event).1 := by
  induction program generalizing state with
  | done value => contradiction
  | perform event next ih =>
    rw [history_perform] at among
    rcases List.mem_cons.1 among with rfl | later
    · exact ⟨state, rfl⟩
    · exact ih _ later

/-- A program performs no events but those that are allowed. -/
def Performs (allowed : I.Event → Prop) : Act I α → Prop
  | .done _ => True
  | .perform event next => allowed event ∧ ∀ reply, Performs allowed (next reply)

section

variable {allowed : I.Event → Prop}

/-- Programs that follow one another perform what both of them do. -/
theorem Performs.bind {program : Act I α} {next : α → Act I β} (first : program.Performs allowed)
    (second : ∀ value, (next value).Performs allowed) : (program.bind next).Performs allowed := by
  induction program with
  | done value => exact second value
  | perform event more ih => exact ⟨first.1, fun reply => ih reply (first.2 reply)⟩

/-- A single event. -/
theorem performs_request {event : I.Event} (fits : allowed event) :
    (request event).Performs allowed := ⟨fits, fun _ => trivial⟩

/-- A program that stands for each event of another one performs the events of its stand-ins. -/
theorem performs_interpret {step : (event : J.Event) → Act I (J.Answer event)}
    (each : ∀ event, (step event).Performs allowed) (program : Act J α) :
    (program.interpret step).Performs allowed := by
  induction program with
  | done value => trivial
  | perform event next ih => exact (each event).bind ih

/-- What takes place is allowed. -/
theorem Performs.of_mem_history {program : Act I α} (performs : program.Performs allowed)
    {answer : Handler I σ} {state : σ} {happening : Happening I}
    (among : happening ∈ program.history answer state) : allowed happening.event := by
  induction program generalizing state with
  | done value => contradiction
  | perform event next ih =>
    rw [history_perform] at among
    rcases List.mem_cons.1 among with rfl | later
    · exact performs.1
    · exact ih _ (performs.2 _) later

end

end Act

/-! ## Programs that may end with an error -/

/-- Whatever state a program is run from, its history and its result belong together. -/
def Ensures {I : Interface} {ε α σ : Type} (answer : Handler I σ) (program : ExceptT ε (Act I) α)
    (holds : List (Happening I) → Except ε α → Prop) : Prop :=
  ∀ state, holds (program.run.history answer state) (program.run.run answer state).1

section

variable {I : Interface} {ε α β σ : Type} {answer : Handler I σ}

/-- What follows from what a program ensures is ensured. -/
theorem Ensures.mono {program : ExceptT ε (Act I) α}
    {first second : List (Happening I) → Except ε α → Prop} (ensures : Ensures answer program first)
    (implies : ∀ history result, first history result → second history result) :
    Ensures answer program second :=
  fun state => implies _ _ (ensures state)

/-- A program passes to its result by its history, whatever else it ensures. -/
theorem Ensures.passes {program : ExceptT ε (Act I) α}
    {holds : List (Happening I) → Except ε α → Prop} (ensures : Ensures answer program holds) :
    Ensures answer program fun history result =>
      holds history result ∧ program.run.Passes history result :=
  fun state => ⟨ensures state, program.run.passes_run answer state⟩

/-- A result that is there takes no event. -/
theorem ensures_result {holds : List (Happening I) → Except ε α → Prop} {result : Except ε α}
    (here : holds [] result) :
    Ensures answer (ExceptT.mk (Act.done result) : ExceptT ε (Act I) α) holds :=
  fun _ => here

/-- A program without errors comes to its value. -/
theorem ensures_lift {holds : List (Happening I) → Except ε α → Prop} (program : Act I α)
    (here : ∀ state, holds (program.history answer state) (.ok (program.run answer state).1)) :
    Ensures answer (liftM program : ExceptT ε (Act I) α) holds := by
  intro state
  change holds ((program.bind fun value => .done (Except.ok value)).history answer state)
    ((program.bind fun value => .done (Except.ok value)).run answer state).1
  rw [Act.history_bind, Act.run_bind]
  have nothing := List.append_nil (program.history answer state)
  exact nothing.symm ▸ here state

/-- An error of the first program is the end, and after a value the history goes on. -/
theorem Ensures.bind {program : ExceptT ε (Act I) α} {next : α → ExceptT ε (Act I) β}
    {first : List (Happening I) → Except ε α → Prop}
    {holds : List (Happening I) → Except ε β → Prop} (before : Ensures answer program first)
    (failed : ∀ history error, first history (.error error) → holds history (.error error))
    (went : ∀ history value, first history (.ok value) →
      Ensures answer (next value) fun later result => holds (history ++ later) result) :
    Ensures answer (program >>= next) holds := by
  intro state
  change holds
    ((program.run.bind fun result => ExceptT.bindCont next result).history answer state)
    ((program.run.bind fun result => ExceptT.bindCont next result).run answer state).1
  rw [Act.history_bind, Act.run_bind]
  have here := before state
  cases reached : (program.run.run answer state).1 with
  | ok value =>
    rw [reached] at here
    exact went _ value here _
  | error error =>
    rw [reached] at here
    have nothing := List.append_nil (program.run.history answer state)
    exact nothing.symm ▸ failed _ error here

end

/-! ## Files -/

/-- The file that an event writes, with its text. -/
def WorldEvent.file? : WorldEvent → Option (String × String)
  | .write path text => some (path, text)
  | _ => none

/-- The files that were written, with their texts, in order. -/
def written (history : List (Happening world)) : List (String × String) :=
  history.filterMap fun happening => happening.event.file?

/-- Files of two histories in a row. -/
@[simp]
theorem written_append (first second : List (Happening world)) :
    written (first ++ second) = written first ++ written second :=
  List.filterMap_append

/-- A program writes no file, whatever the answers to its events are. -/
def Act.KeepsFiles {α : Type} (program : Act world α) : Prop :=
  program.Performs fun event : WorldEvent => event.file? = none

/-- A program that writes no file has none in its history. -/
theorem Act.KeepsFiles.written_eq_nil {α σ : Type} {program : Act world α}
    (keeps : program.KeepsFiles) (answer : Handler world σ) (state : σ) :
    written (program.history answer state) = [] :=
  List.filterMap_eq_nil_iff.2 fun _ among => keeps.of_mem_history among

/-- Making a directory writes no file. -/
theorem Saving.keepsFiles_makeDirectory (path : String) : (makeDirectory path).KeepsFiles := by
  refine Act.Performs.bind (Act.performs_request rfl) fun outcome => ?_
  cases outcome with
  | ok made => trivial
  | error fault =>
    cases fault with
    | alreadyExists =>
      refine Act.Performs.bind (Act.performs_request rfl) fun isDirectory => ?_
      cases isDirectory <;> trivial
    | _ => trivial

/-- Making a directory with those above it writes no file. -/
theorem Saving.keepsFiles_makeDirectories (path : String) (above : List String) :
    (makeDirectories path above).KeepsFiles := by
  induction above generalizing path with
  | nil => exact keepsFiles_makeDirectory path
  | cons parent above ih =>
    refine (keepsFiles_makeDirectory path).bind fun outcome => ?_
    cases outcome with
    | ok made => trivial
    | error fault =>
      cases fault with
      | missing =>
        refine (ih parent).bind fun outcome => ?_
        cases outcome with
        | ok made => exact keepsFiles_makeDirectory path
        | error fault => trivial
      | _ => trivial

/-- A file that is saved without a fault is written once, and no other file is. -/
theorem World.written_save {σ : Type} {answer : Handler world σ} {state : σ}
    {directory name text : String}
    (saved : ((World.save directory name text).run answer state).1 = .ok ()) :
    written ((World.save directory name text).history answer state) =
      [(Saving.join directory name, text)] := by
  have none := (Saving.keepsFiles_makeDirectories directory (Saving.above directory)).written_eq_nil
    answer state
  change (((Saving.makeDirectories directory (Saving.above directory)).bind _).run answer
    state).1 = _ at saved
  change written (((Saving.makeDirectories directory (Saving.above directory)).bind _).history
    answer state) = _
  rw [Act.run_bind] at saved
  rw [Act.history_bind, written_append, none]
  cases made : ((Saving.makeDirectories directory (Saving.above directory)).run answer state).1
    with
  | ok there => rfl
  | error fault =>
    rw [made] at saved
    contradiction

end Assay
