import Assay.Endpoint
import Assay.Proofs.Calls
import Assay.Proofs.Steps

/-!
# What comes of asking an endpoint

Asking an endpoint comes to a generation whatever happens on the way: the endpoint is closed, its
address is none, nothing comes back, or an answer with any status and any body. Only a status
that the endpoint's kind accepts, with a body that is JSON and can be read as a reply, is no
failure. What is recorded of the exchange does not depend on that last step: a body that is JSON
is recorded even where it cannot be read as a reply. `generate_accounts` says all of this of both
kinds of endpoints, from the five ways in which posting a question ends.
-/
namespace Assay

open Json

/-- The request that an event posts. -/
def WorldEvent.post? : WorldEvent → Option Post
  | .post request => some request
  | _ => none

/-- The requests that a program posts while a state answers its events, in order. -/
def Act.posts {α σ : Type} (answer : Handler world σ) (state : σ) : Act world α → List Post
  | .done _ => []
  | .perform event next =>
    let (reply, state) := answer state event
    event.post?.toList ++ posts answer state (next reply)

namespace Endpoint

/-- Whether an endpoint may still be asked. -/
def isOpen : Endpoint → Bool
  | .chat endpoint => endpoint.isOpen
  | .plain endpoint => endpoint.isOpen

/-- Where an endpoint takes questions. -/
def target : Endpoint → String
  | .chat endpoint => endpoint.address ++ Chat.path
  | .plain endpoint => endpoint.address ++ Plain.path

/-- How the caller of an endpoint says who it is. -/
def authorization : Endpoint → Option String
  | .chat endpoint => endpoint.key.map ("Bearer " ++ ·)
  | .plain _ => none

/-- How long an answer of an endpoint is waited for. -/
def timeout : Endpoint → Option Duration
  | .chat endpoint => some endpoint.timeout
  | .plain endpoint => endpoint.timeout

/-- The request for a question to an endpoint. -/
def request (endpoint : Endpoint) (question : Question) : Value :=
  match endpoint with
  | .chat endpoint => Chat.request endpoint.model endpoint.extra (endpoint.complete question)
  | .plain _ => Plain.request question.messages

/-- The statuses that an endpoint takes for a success: a chat endpoint all that are called so, and
a plain one a single one. -/
def Accepts (endpoint : Endpoint) (status : Nat) : Prop :=
  match endpoint with
  | .chat _ => 200 ≤ status ∧ status ≤ 299
  | .plain _ => status = 200

/-- A JSON value is a reply of an endpoint, which stands for an output. -/
def Reads (endpoint : Endpoint) (value : Value) (output : Output) : Prop :=
  match endpoint with
  | .chat endpoint =>
    ∃ reply, Reply.ofJson value = .ok reply ∧ output = reply.toOutput endpoint.model
  | .plain endpoint =>
    ∃ text, Plain.replyText value = .ok text ∧ output = .ofText endpoint.model text .stop none

/-- The request that is posted for a question to an endpoint, or why none is. -/
def posting (endpoint : Endpoint) (question : Question) : Except Failure Post :=
  if endpoint.isOpen then
    match Url.parse? endpoint.target with
    | none => .error (.unexpected "builder error")
    | some url =>
      if url.isDestination then
        .ok ⟨url, endpoint.authorization, endpoint.request question, endpoint.timeout⟩
      else .error (.unexpected ("builder error for url (" ++ url.toText ++ ")"))
  else .error (.unexpected "client is closed")

/-- An endpoint can be sent requests at an address: it is open, and the address is the one where it
takes questions and one that requests can be sent to. -/
def Reaches (endpoint : Endpoint) (url : Url) : Prop :=
  endpoint.isOpen = true ∧ Url.parse? endpoint.target = some url ∧ url.isDestination = true

/-- The status and the text that a question to an endpoint is answered with, or why there is no
answer. -/
def outcome (endpoint : Endpoint) (question : Question) {σ : Type} (answer : Handler world σ)
    (state : σ) : Except Failure (Nat × String) :=
  match endpoint.posting question with
  | .error failure => .error failure
  | .ok post => answerOf post.url (answer state (.post post)).1

/-- The test of a status that an endpoint makes. -/
def accepts : Endpoint → Nat → Bool
  | .chat _ => Chat.accepts
  | .plain _ => Plain.accepts

/-- How an endpoint reads a JSON value. -/
def read : Endpoint → Decoder Output
  | .chat endpoint => Chat.read endpoint.model
  | .plain endpoint => Plain.read endpoint.model

/-- The generation that an endpoint makes of an outcome. -/
def concluded (endpoint : Endpoint) (question : Question)
    (outcome : Except Failure (Nat × String)) : Generation :=
  conclude endpoint.model endpoint.accepts endpoint.read (endpoint.request question) outcome

/-- A request is posted for a question where an endpoint can be sent requests, and nowhere else. -/
theorem posting_eq_ok_iff {endpoint : Endpoint} {question : Question} {post : Post} :
    endpoint.posting question = .ok post ↔ ∃ url, endpoint.Reaches url ∧
      post = ⟨url, endpoint.authorization, endpoint.request question, endpoint.timeout⟩ := by
  rw [posting]
  constructor
  · intro posted
    split at posted
    case isFalse => contradiction
    case isTrue isOpen =>
      split at posted
      case h_1 => contradiction
      case h_2 url parsed =>
        split at posted
        case isFalse => contradiction
        case isTrue destination =>
          exact ⟨url, ⟨isOpen, parsed, destination⟩, (Except.ok.inj posted).symm⟩
  · rintro ⟨url, ⟨isOpen, parsed, destination⟩, rfl⟩
    rw [if_pos isOpen, parsed]
    exact if_pos destination

/-- The test of a status says whether an endpoint takes it for a success. -/
theorem accepts_iff (endpoint : Endpoint) (status : Nat) :
    endpoint.accepts status = true ↔ endpoint.Accepts status := by
  cases endpoint with
  | chat endpoint => simp [accepts, Accepts, Chat.accepts]
  | plain endpoint => simp [accepts, Accepts, Plain.accepts]

/-- An endpoint reads a JSON value to an output when the value is a reply that stands for it. -/
theorem read_eq_ok_iff (endpoint : Endpoint) (value : Value) (output : Output) :
    endpoint.read value = .ok output ↔ endpoint.Reads value output := by
  cases endpoint with
  | chat endpoint =>
    change (Reply.ofJson value).map _ = _ ↔ _
    cases found : Reply.ofJson value with
    | error mismatch => simp [Reads, found, Except.map]
    | ok reply => simp [Reads, found, Except.map, eq_comm]
  | plain endpoint =>
    change (Plain.replyText value).map _ = _ ↔ _
    cases found : Plain.replyText value with
    | error mismatch => simp [Reads, found, Except.map]
    | ok text => simp [Reads, found, Except.map, eq_comm]

/-- The output that a reply stands for has no error. -/
theorem error_of_reads {endpoint : Endpoint} {value : Value} {output : Output}
    (reads : endpoint.Reads value output) : output.error = none := by
  cases endpoint with
  | chat endpoint =>
    obtain ⟨reply, -, rfl⟩ := reads
    rfl
  | plain endpoint =>
    obtain ⟨text, -, rfl⟩ := reads
    rfl

/-- To send a request is to post it where that is possible. -/
theorem send_eq (endpoint : Endpoint) (question : Question) :
    send endpoint.isOpen endpoint.target endpoint.authorization endpoint.timeout
        (endpoint.request question) =
      match endpoint.posting question with
      | .error failure => .done (.error failure)
      | .ok post => .perform (I := world) (.post post) fun delivery =>
          .done (answerOf post.url delivery) := by
  rw [send, posting]
  cases endpoint.isOpen with
  | false => rfl
  | true =>
    cases Url.parse? endpoint.target with
    | none => rfl
    | some url =>
      cases destination : url.isDestination with
      | false => simp [destination]; rfl
      | true => simp [destination]; rfl

/-- To ask an endpoint is to post one request and to conclude from what comes of it, or to
conclude at once from why none is posted. -/
theorem generate_eq (endpoint : Endpoint) (question : Question) :
    endpoint.generate question =
      match endpoint.posting question with
      | .error failure => .done (endpoint.concluded question (.error failure))
      | .ok post => .perform (I := world) (.post post) fun delivery =>
          .done (endpoint.concluded question (answerOf post.url delivery)) := by
  have whole : endpoint.generate question =
      (send endpoint.isOpen endpoint.target endpoint.authorization endpoint.timeout
        (endpoint.request question)).bind fun answer =>
          .done (endpoint.concluded question answer) := by
    cases endpoint <;> rfl
  rw [whole, send_eq]
  cases endpoint.posting question <;> rfl

section

variable {σ : Type} (endpoint : Endpoint) (question : Question) (answer : Handler world σ)
  (state : σ)

/-- What comes of asking is concluded from the outcome. -/
theorem run_generate :
    ((endpoint.generate question).run answer state).1 =
      endpoint.concluded question (endpoint.outcome question answer state) := by
  rw [generate_eq, outcome]
  cases endpoint.posting question <;> rfl

/-- A request is posted once if it is posted at all. -/
theorem posts_generate :
    (endpoint.generate question).posts answer state =
      (endpoint.posting question).toOption.toList := by
  rw [generate_eq]
  cases endpoint.posting question <;> rfl

end

/-- The ways in which posting a request ends, with the generation that is made of each. -/
inductive Ending (endpoint : Endpoint) (request : Value) :
    Except Failure (Nat × String) → Generation → Prop
  /-- There is no answer. -/
  | unanswered (failure : Failure) : Ending endpoint request (.error failure)
      (.ofFailure endpoint.model failure ⟨request, .object []⟩)
  /-- The status is no success. -/
  | refused {status : Nat} {body : String} (outside : ¬endpoint.Accepts status) :
    Ending endpoint request (.ok (status, body))
      (.ofFailure endpoint.model (.status status body) ⟨request, .object []⟩)
  /-- The body is not JSON. -/
  | garbled {status : Nat} {body : String} {fault : SyntaxError}
    (inside : endpoint.Accepts status) (notJson : parse body = .error fault) :
    Ending endpoint request (.ok (status, body))
      (.ofFailure endpoint.model (.unexpected fault.message) ⟨request, .object []⟩)
  /-- The body is JSON and no reply. -/
  | mistaken {status : Nat} {body : String} {value : Value} {mismatch : Mismatch}
    (inside : endpoint.Accepts status) (isJson : parse body = .ok value)
    (noReply : ∀ output, ¬endpoint.Reads value output) :
    Ending endpoint request (.ok (status, body))
      (.ofFailure endpoint.model (.unexpected mismatch.message) ⟨request, value⟩)
  /-- The body is a reply. -/
  | replied {status : Nat} {body : String} {value : Value} {output : Output}
    (inside : endpoint.Accepts status) (isJson : parse body = .ok value)
    (reads : endpoint.Reads value output) :
    Ending endpoint request (.ok (status, body)) (.success output ⟨request, value⟩)

/-- Every outcome ends in one of the ways. -/
theorem ending_concluded (endpoint : Endpoint) (question : Question)
    (outcome : Except Failure (Nat × String)) :
    endpoint.Ending (endpoint.request question) outcome
      (endpoint.concluded question outcome) := by
  cases outcome with
  | error failure => exact .unanswered failure
  | ok answer =>
    obtain ⟨status, body⟩ := answer
    rw [concluded, conclude]
    cases accepted : endpoint.accepts status with
    | false =>
      have outside : ¬endpoint.Accepts status := by
        rw [← accepts_iff, accepted]
        exact Bool.false_ne_true
      exact .refused outside
    | true =>
      have inside := (endpoint.accepts_iff status).1 accepted
      cases isJson : parse body with
      | error fault => exact .garbled inside isJson
      | ok value =>
        cases found : endpoint.read value with
        | error mismatch =>
          simp only [found]
          refine .mistaken inside isJson fun output reads => ?_
          rw [← read_eq_ok_iff, found] at reads
          contradiction
        | ok output =>
          simp only [found]
          exact .replied inside isJson ((endpoint.read_eq_ok_iff value output).1 found)

/-- How a generation accounts for the outcome of posting a request to an endpoint. -/
structure Accounts (endpoint : Endpoint) (request : Value)
    (outcome : Except Failure (Nat × String)) (generation : Generation) : Prop where
  /-- There is a failure exactly when the output has an error. -/
  failure_iff : generation.failure = none ↔ generation.output.error = none
  /-- The output of a failure holds its wording, as the error and as the only choice, and no
  more. -/
  output_of_failure : ∀ failure, generation.failure = some failure →
    generation.output =
      { model := endpoint.model
        choices := [⟨.assistant (.text failure.message) [] (some endpoint.model)
          (some "generate"), .unknown⟩]
        usage := none
        error := some failure.message }
  /-- Why there is no answer is the failure. -/
  unanswered : ∀ failure, outcome = .error failure → generation.failure = some failure
  /-- A status that is no success is a failure with that status and the whole body. -/
  refused : ∀ status body, outcome = .ok (status, body) → ¬endpoint.Accepts status →
    generation.failure = some (.status status body)
  /-- A body that is not JSON, or JSON and no reply, is an unexpected failure. -/
  unusable : ∀ status body, outcome = .ok (status, body) → endpoint.Accepts status →
    (∀ value output, parse body = .ok value → ¬endpoint.Reads value output) →
    ∃ message, generation.failure = some (.unexpected message)
  /-- A body that is a reply is no failure, and the output is what the reply stands for. -/
  replied : ∀ status body value output, outcome = .ok (status, body) →
    endpoint.Accepts status → parse body = .ok value → endpoint.Reads value output →
    generation.failure = none ∧ generation.output = output
  /-- A body that is JSON is recorded beside the request, whether it is a reply or not. -/
  recorded : ∀ status body value, outcome = .ok (status, body) → endpoint.Accepts status →
    parse body = .ok value → generation.exchange = some ⟨request, value⟩
  /-- In every other case an empty object is recorded beside the request. -/
  unrecorded : (∀ status body value, outcome = .ok (status, body) → endpoint.Accepts status →
    parse body ≠ .ok value) → generation.exchange = some ⟨request, .object []⟩

namespace Ending

variable {endpoint : Endpoint} {request : Value} {outcome : Except Failure (Nat × String)}
  {generation : Generation}

/-- A generation has a failure exactly when its output has an error. -/
theorem failure_iff (ending : endpoint.Ending request outcome generation) :
    generation.failure = none ↔ generation.output.error = none := by
  cases ending with
  | replied inside isJson reads => simp [Generation.success, error_of_reads reads]
  | _ => simp [Generation.ofFailure, Output.ofText]

/-- The output of a failure is its wording. -/
theorem output_of_failure (ending : endpoint.Ending request outcome generation)
    {failure : Failure} (failed : generation.failure = some failure) :
    generation.output = .ofText endpoint.model failure.message .unknown
      (some failure.message) := by
  cases ending with
  | replied inside isJson reads => contradiction
  | _ =>
    obtain rfl := Option.some.inj failed
    rfl

/-- The failure of a body that is no reply is unexpected. -/
theorem unexpected_of_unusable {status : Nat} {body : String}
    (ending : endpoint.Ending request (.ok (status, body)) generation)
    (inside : endpoint.Accepts status)
    (unusable : ∀ value output, parse body = .ok value → ¬endpoint.Reads value output) :
    ∃ message, generation.failure = some (.unexpected message) := by
  cases ending with
  | refused outside => exact absurd inside outside
  | garbled inside notJson => exact ⟨_, rfl⟩
  | mistaken inside isJson noReply => exact ⟨_, rfl⟩
  | replied inside isJson reads => exact absurd reads (unusable _ _ isJson)

/-- A reply is returned as the output that it stands for. -/
theorem output_of_reads {status : Nat} {body : String} {value : Value} {output : Output}
    (ending : endpoint.Ending request (.ok (status, body)) generation)
    (inside : endpoint.Accepts status) (found : parse body = .ok value)
    (reads : endpoint.Reads value output) :
    generation.failure = none ∧ generation.output = output := by
  cases ending with
  | refused outside => exact absurd inside outside
  | garbled inside notJson =>
    rw [found] at notJson
    contradiction
  | mistaken inside isJson noReply =>
    obtain rfl := Except.ok.inj (isJson.symm.trans found)
    exact absurd reads (noReply output)
  | replied inside isJson other =>
    obtain rfl := Except.ok.inj (isJson.symm.trans found)
    rw [← read_eq_ok_iff] at reads other
    exact ⟨rfl, Except.ok.inj (other.symm.trans reads)⟩

/-- A body that is JSON is recorded. -/
theorem exchange_of_parse {status : Nat} {body : String} {value : Value}
    (ending : endpoint.Ending request (.ok (status, body)) generation)
    (inside : endpoint.Accepts status) (found : parse body = .ok value) :
    generation.exchange = some ⟨request, value⟩ := by
  cases ending with
  | refused outside => exact absurd inside outside
  | garbled inside notJson =>
    rw [found] at notJson
    contradiction
  | mistaken inside isJson noReply =>
    obtain rfl := Except.ok.inj (isJson.symm.trans found)
    rfl
  | replied inside isJson reads =>
    obtain rfl := Except.ok.inj (isJson.symm.trans found)
    rfl

/-- Without a body that is JSON there is an empty record. -/
theorem exchange_of_unrecorded (ending : endpoint.Ending request outcome generation)
    (none : ∀ status body value, outcome = .ok (status, body) → endpoint.Accepts status →
      parse body ≠ .ok value) : generation.exchange = some ⟨request, .object []⟩ := by
  cases ending with
  | mistaken inside isJson noReply => exact absurd isJson (none _ _ _ rfl inside)
  | replied inside isJson reads => exact absurd isJson (none _ _ _ rfl inside)
  | _ => rfl

/-- Whatever comes of a request, it is recorded. -/
theorem exists_exchange (ending : endpoint.Ending request outcome generation) :
    ∃ response, generation.exchange = some ⟨request, response⟩ := by
  cases ending <;> exact ⟨_, rfl⟩

/-- Each of the ways to end accounts for the outcome. -/
theorem accounts (ending : endpoint.Ending request outcome generation) :
    endpoint.Accounts request outcome generation where
  failure_iff := ending.failure_iff
  output_of_failure failure failed := ending.output_of_failure failed
  unanswered failure same := by
    subst same
    cases ending with
    | unanswered => rfl
  refused status body same outside := by
    subst same
    cases ending with
    | refused => rfl
    | garbled inside notJson => exact absurd inside outside
    | mistaken inside isJson noReply => exact absurd inside outside
    | replied inside isJson reads => exact absurd inside outside
  unusable status body same inside := by
    subst same
    exact ending.unexpected_of_unusable inside
  replied status body value output same inside := by
    subst same
    exact ending.output_of_reads inside
  recorded status body value same inside := by
    subst same
    exact ending.exchange_of_parse inside
  unrecorded := ending.exchange_of_unrecorded

end Ending

/-- Asking an endpoint of either kind a question comes to a generation that accounts for the
outcome, whatever that is, and that records the request for the question. No other request is
posted, and this one is posted once unless the endpoint is closed or its address is none. -/
theorem generate_accounts (endpoint : Endpoint) (question : Question) {σ : Type}
    (answer : Handler world σ) (state : σ) :
    endpoint.Accounts (endpoint.request question) (endpoint.outcome question answer state)
        ((endpoint.generate question).run answer state).1 ∧
      (endpoint.generate question).posts answer state =
        (endpoint.posting question).toOption.toList ∧
      ∀ post, endpoint.posting question = .ok post →
        post.body = endpoint.request question := by
  rw [run_generate]
  refine ⟨(endpoint.ending_concluded question _).accounts,
    endpoint.posts_generate question answer state, fun post posted => ?_⟩
  obtain ⟨url, -, rfl⟩ := posting_eq_ok_iff.1 posted
  rfl

end Endpoint
end Assay
