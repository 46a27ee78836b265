import Assay.Proofs.Course
import Assay.Proofs.Exchange
import Assay.Proofs.History
import Assay.Proofs.Abort

/-!
# Runs over the network

In a run over the network every call is answered by an endpoint, which posts a request for it.
Such a run writes no file. It ends with an error only when one of its calls was refused, and a
reply is a refusal only when the endpoint was answered with the status 401: so the error can be
traced back to an answer in the history of the run. This holds for any number of lanes, since
what a lane comes to is a course of its own program, and each course is taken by a run against
the replies in it.
-/
namespace Assay

open Json

/-! ## Courses as runs -/

/-- Reply to calls what is in a list, and nothing in particular after that. -/
def replay : Handler calling (List Generation) := fun replies event =>
  match event with
  | .call _ _ =>
    match replies with
    | reply :: replies => (reply, replies)
    | [] => (.ofFailure "" (.unexpected "") ⟨.null, .null⟩, [])
  | .wait _ => ((), replies)

/-- A program that gets the replies of a course takes the course. -/
theorem Act.Course.replayed {α : Type} {program : Act calling α} {calls : List Call} {value : α}
    (course : program.Course calls value) :
    program.calls replay (calls.map Call.reply) = calls ∧
      (program.run replay (calls.map Call.reply)).1 = value := by
  induction course with
  | done value => exact ⟨rfl, rfl⟩
  | call reply later ih =>
    obtain ⟨made, reached⟩ := ih
    exact ⟨congrArg _ made, reached⟩
  | wait later ih => exact ih

/-- A course of the evaluation of a sample that ends with an error has a call that was refused
with it. -/
theorem Task.refusal_of_course_attempt {task : Task} {profiles : Party → Profile}
    {settings : RunSettings} {sampling : Sampling} {sample : Sample} {calls : List Call}
    {error : Error}
    (course : (task.attempt profiles settings sampling sample).Course calls (.error error)) :
    ∃ call ∈ calls, call.refusal? profiles = some error := by
  obtain ⟨made, reached⟩ := course.replayed
  have heeding : Heeding profiles settings
      (task.evaluate (profiles .model).name sampling sample) := heeding_evaluate _ _ _ _
  have both : Heeds profiles calls (.error error : Except Error (Attempt × Score)) :=
    made ▸ reached ▸ heeding _ replay (calls.map Call.reply)
  exact (both.eq_error_iff error).1 rfl

/-- Outcomes are settled with an error only when one of them is that error. -/
theorem Task.mem_of_settled {ε α : Type} {outcomes : List (Except ε α)} {error : ε}
    (settles : settled outcomes = .error error) : .error error ∈ outcomes := by
  induction outcomes with
  | nil => contradiction
  | cons outcome outcomes ih =>
    cases outcome with
    | error first =>
      obtain rfl : first = error := Except.error.inj settles
      exact List.mem_cons_self
    | ok value =>
      rw [settled_cons_ok, map_eq_error_iff] at settles
      exact List.mem_cons_of_mem _ (ih settles)

/-- A run that has a sample ends with an error only when one of its calls was refused with it,
whatever the number of lanes. -/
theorem Task.refusal_of_run {task : Task} {profiles : Party → Profile} {settings : RunSettings}
    {sampling : Sampling} {limit : Option Nat} {logging : Bool} {σ : Type}
    {answer : Handler calling σ} {state : σ} {error : Error}
    (nonempty : task.selection limit ≠ [])
    (failed : ((task.run profiles settings sampling limit logging).run answer state).1 =
      .error error) :
    ∃ call ∈ (task.run profiles settings sampling limit logging).calls answer state,
      call.refusal? profiles = some error := by
  have course := Act.Course.of_run answer state (task.run profiles settings sampling limit logging)
  rw [failed] at course
  generalize (task.run profiles settings sampling limit logging).calls answer state = calls
    at course
  rw [run, select_of_ne_nil nonempty] at course
  obtain ⟨first, outcomes, second, rfl, evaluated, reported⟩ := course.of_bind
  obtain ⟨rfl, settles⟩ := reported.of_done
  have among := mem_of_settled (map_eq_error_iff.1 settles.symm)
  obtain ⟨program, member, own, few, taken⟩ := course_together evaluated _ among
  obtain ⟨sample, -, rfl⟩ := List.mem_map.1 member
  obtain ⟨call, made, refused⟩ := refusal_of_course_attempt taken
  exact ⟨call, List.mem_append_left _ (few.subset made), refused⟩

/-! ## Calls as requests -/

/-- An error says that the caller was turned away: an answer with the status 401 has come back,
and the error holds its body. -/
def TurnedAway (history : List (Happening world)) (error : Error) : Prop :=
  ∃ connection request body,
    (⟨.post request, Delivery.answered 401 body⟩ : Happening world) ∈ history ∧
      error = .refused connection (.status 401 (String.ofList (Text.ofBytes body)))

/-- A program does not crash, and it fails only when the caller was turned away. -/
def FailsOnlyAway {α : Type} (history : List (Happening world)) (result : Except Halt α) : Prop :=
  ∀ halt, result = .error halt → ∃ error, halt = .error error ∧ TurnedAway history error

/-- Who was turned away in a part of a history was turned away in the whole. -/
theorem TurnedAway.mono {first second : List (Happening world)} {error : Error}
    (away : TurnedAway first error) (among : ∀ happening ∈ first, happening ∈ second) :
    TurnedAway second error := by
  obtain ⟨connection, request, body, answered, same⟩ := away
  exact ⟨connection, request, body, among _ answered, same⟩

/-- It does not matter what a program that halts would have come to. -/
theorem FailsOnlyAway.error {α β : Type} {history : List (Happening world)} {halt : Halt}
    (away : FailsOnlyAway history (.error halt : Except Halt α)) :
    FailsOnlyAway history (.error halt : Except Halt β) := by
  intro other same
  obtain rfl := Except.error.inj same
  exact away halt rfl

/-- It does not matter what came before. -/
theorem FailsOnlyAway.append {α : Type} {history : List (Happening world)}
    {result : Except Halt α} (away : FailsOnlyAway history result)
    (earlier : List (Happening world)) : FailsOnlyAway (earlier ++ history) result := by
  intro halt failed
  obtain ⟨error, same, turned⟩ := away halt failed
  exact ⟨error, same, turned.mono fun _ among => List.mem_append_right _ among⟩

namespace Endpoint

/-- A generation is a refusal only when the request was answered with the status 401, or when
the failure was there before any answer. -/
theorem Ending.outcome_of_isRefusal {endpoint : Endpoint} {request : Value}
    {outcome : Except Failure (Nat × String)} {generation : Generation} {failure : Failure}
    (ending : endpoint.Ending request outcome generation)
    (failed : generation.failure = some failure) (refused : failure.isRefusal = true) :
    outcome = .error failure ∨ ∃ body, outcome = .ok (401, body) ∧ failure = .status 401 body := by
  cases ending with
  | unanswered other =>
    obtain rfl : other = failure := Option.some.inj failed
    exact .inl rfl
  | @refused status body outside =>
    obtain rfl : .status status body = failure := Option.some.inj failed
    obtain rfl : status = 401 := by simpa [Failure.isRefusal, Failure.statusCode?] using refused
    exact .inr ⟨body, rfl, rfl⟩
  | garbled inside notJson =>
    obtain rfl := Option.some.inj failed
    contradiction
  | mistaken inside isJson noReply =>
    obtain rfl := Option.some.inj failed
    contradiction
  | replied inside isJson reads => contradiction

/-- Why no request is posted is never a refusal. -/
theorem not_isRefusal_of_posting {endpoint : Endpoint} {question : Question} {failure : Failure}
    (unposted : endpoint.posting question = .error failure) : failure.isRefusal = false := by
  rw [posting] at unposted
  split at unposted
  · split at unposted
    · obtain rfl := Except.error.inj unposted
      rfl
    · split at unposted
      · contradiction
      · obtain rfl := Except.error.inj unposted
        rfl
  · obtain rfl := Except.error.inj unposted
    rfl

/-- Why a delivery holds no answer is never a refusal. -/
theorem not_isRefusal_of_answerOf {url : Url} {delivery : Delivery} {failure : Failure}
    (unanswered : answerOf url delivery = .error failure) : failure.isRefusal = false := by
  cases delivery with
  | answered status body => contradiction
  | cutShort timedOut =>
    obtain rfl := Except.error.inj unanswered
    cases timedOut <;> rfl
  | unanswered timedOut =>
    obtain rfl := Except.error.inj unanswered
    rfl

/-- The status and the text of a delivery are those of an answer. -/
theorem answered_of_answerOf {url : Url} {delivery : Delivery} {status : Nat} {text : String}
    (read : answerOf url delivery = .ok (status, text)) :
    ∃ body, delivery = .answered status body ∧ text = String.ofList (Text.ofBytes body) := by
  cases delivery with
  | answered status body =>
    obtain ⟨rfl, rfl⟩ := Prod.mk.inj (Except.ok.inj read)
    exact ⟨body, rfl, rfl⟩
  | cutShort timedOut => contradiction
  | unanswered timedOut => contradiction

section

variable {endpoint : Endpoint} {question : Question} {σ : Type} {answer : Handler world σ}
  {state : σ}

/-- Why there is no answer is never a refusal. -/
theorem not_isRefusal_of_outcome {failure : Failure}
    (none : endpoint.outcome question answer state = .error failure) :
    failure.isRefusal = false := by
  rw [outcome] at none
  cases posted : endpoint.posting question with
  | error unposted =>
    simp only [posted] at none
    obtain rfl := Except.error.inj none
    exact not_isRefusal_of_posting posted
  | ok request =>
    simp only [posted] at none
    exact not_isRefusal_of_answerOf none

/-- An outcome with a status is that of a request that was answered with it. -/
theorem answered_of_outcome {status : Nat} {text : String}
    (some : endpoint.outcome question answer state = .ok (status, text)) :
    ∃ request body,
      (⟨.post request, Delivery.answered status body⟩ : Happening world) ∈
          (endpoint.generate question).history answer state ∧
        text = String.ofList (Text.ofBytes body) := by
  rw [outcome] at some
  rw [generate_eq]
  cases posted : endpoint.posting question with
  | error unposted =>
    simp only [posted] at some
    contradiction
  | ok request =>
    simp only [posted] at some
    obtain ⟨body, answered, same⟩ := answered_of_answerOf some
    refine ⟨request, body, ?_, same⟩
    rw [← answered]
    exact List.mem_cons_self

/-- A refusal by an endpoint is an answer with the status 401, and holds its body. -/
theorem answered_of_isRefusal {failure : Failure}
    (failed : ((endpoint.generate question).run answer state).1.failure = some failure)
    (refused : failure.isRefusal = true) :
    ∃ request body,
      (⟨.post request, Delivery.answered 401 body⟩ : Happening world) ∈
          (endpoint.generate question).history answer state ∧
        failure = .status 401 (String.ofList (Text.ofBytes body)) := by
  rw [run_generate] at failed
  rcases (endpoint.ending_concluded question _).outcome_of_isRefusal failed refused with
    none | ⟨text, some, rfl⟩
  · rw [not_isRefusal_of_outcome none] at refused
    contradiction
  · obtain ⟨request, body, answered, rfl⟩ := answered_of_outcome some
    exact ⟨request, body, answered, rfl⟩

end

section

variable (endpoints : Party → Endpoint) {σ : Type} (answer : Handler world σ)

/-- A state that answers requests answers calls by way of endpoints. -/
def served : Handler calling σ := fun state event => (serve endpoints event).run answer state

variable {endpoints answer}

/-- A call of a run over the network is made by asking an endpoint, and what takes place then is
a part of what takes place in the run. -/
theorem exists_generate_of_mem_calls {α : Type} {program : Act calling α} {state : σ}
    {call : Call} (made : call ∈ program.calls (served endpoints answer) state) :
    ∃ state', call.reply =
        (((endpoints call.party).generate call.question).run answer state').1 ∧
      ∀ happening ∈ ((endpoints call.party).generate call.question).history answer state',
        happening ∈ (program.interpret (serve endpoints)).history answer state := by
  induction program generalizing state with
  | done value => contradiction
  | perform event next ih =>
    rw [Act.interpret, Act.history_bind]
    cases event with
    | call party question =>
      rw [Act.calls_call] at made
      rcases List.mem_cons.1 made with rfl | later
      · exact ⟨state, rfl, fun happening among => List.mem_append_left _ among⟩
      · obtain ⟨reached, replied, among⟩ := ih _ later
        exact ⟨reached, replied, fun happening member =>
          List.mem_append_right _ (among happening member)⟩
    | wait span =>
      rw [Act.calls_wait] at made
      obtain ⟨reached, replied, among⟩ := ih _ made
      exact ⟨reached, replied, fun happening member =>
        List.mem_append_right _ (among happening member)⟩

/-- A call that was refused over the network was answered with the status 401. -/
theorem turnedAway_of_refusal {α : Type} {program : Act calling α} {state : σ} {call : Call}
    {error : Error} (made : call ∈ program.calls (served endpoints answer) state)
    (refused : call.refusal? (fun party => (endpoints party).profile) = some error) :
    TurnedAway ((program.interpret (serve endpoints)).history answer state) error := by
  obtain ⟨reached, replied, among⟩ := exists_generate_of_mem_calls made
  rw [Call.refusal?] at refused
  cases failed : call.reply.failure with
  | none =>
    rw [failed] at refused
    contradiction
  | some failure =>
    simp only [failed, Option.ite_none_right_eq_some] at refused
    obtain ⟨refusal, same⟩ := refused
    rw [replied] at failed
    obtain ⟨request, body, answered, rfl⟩ := answered_of_isRefusal failed refusal
    exact ⟨_, request, body, among _ answered, (Option.some.inj same).symm⟩

/-- Asking an endpoint writes no file. -/
theorem keepsFiles_generate (endpoint : Endpoint) (question : Question) :
    (endpoint.generate question).KeepsFiles := by
  rw [generate_eq]
  cases endpoint.posting question with
  | error failure => trivial
  | ok post => exact ⟨rfl, fun _ => trivial⟩

/-- A run over the network writes no file. -/
theorem keepsFiles_interpret_serve {α : Type} (program : Act calling α) :
    (program.interpret (serve endpoints)).KeepsFiles := by
  refine Act.performs_interpret (fun event => ?_) program
  cases event with
  | call party question => exact keepsFiles_generate ..
  | wait span => exact Act.performs_request rfl

end

/-- A task that is launched over the network, and that has a sample and room for its lanes, does
not crash, and it fails only when the caller was turned away. -/
theorem failsOnlyAway_launch {task : Task} {endpoints : Party → Endpoint} {settings : RunSettings}
    {sampling : Sampling} {limit : Option Nat} {logging : Bool} {σ : Type}
    (answer : Handler world σ) (state : σ) (nonempty : task.selection limit ≠ [])
    (permitted : settings.Permitted) :
    let program := (task.launch (fun party => (endpoints party).profile) settings sampling limit
      logging).interpret (serve endpoints)
    FailsOnlyAway (program.history answer state) (program.run answer state).1 := by
  intro program halt failed
  have whole : program = ((task.run (fun party => (endpoints party).profile) settings sampling
      limit logging).interpret (serve endpoints)).bind fun outcome =>
        .done (outcome.mapError .error) := by
    change (task.launch _ settings sampling limit logging).interpret _ = _
    rw [Task.launch_of_permitted _ _ _ _ _ _ permitted, Act.interpret_bind]
    rfl
  rw [whole, Act.run_bind] at failed
  obtain ⟨error, ran, rfl⟩ := exists_of_mapError_eq_error failed
  rw [Act.run_interpret] at ran
  obtain ⟨call, made, refused⟩ := Task.refusal_of_run nonempty ran
  refine ⟨error, rfl, ?_⟩
  rw [whole, Act.history_bind]
  exact (turnedAway_of_refusal made refused).mono fun _ among => List.mem_append_left _ among

end Endpoint
end Assay
