import Assay.Proofs.Exchange
import Assay.Proofs.Members

/-!
# What a chat endpoint is sent

A request to a chat endpoint is an object whose members come from three places: the further
members of the endpoint, the question, and the parameters of the endpoint. Under each name the
last further member counts; where there is none, the question does; and for a parameter that the
question leaves open, the endpoint. `generate_sends` says which names a request has and what it
holds under each of them, that it is the one request that is posted where one can be, and that it
is recorded.
-/
namespace Assay

open Json

/-- The floats among parameters are numbers. -/
structure Sampling.Finite (sampling : Sampling) : Prop where
  temperature : ∀ x ∈ sampling.temperature, x.isFinite = true
  topP : ∀ x ∈ sampling.topP, x.isFinite = true

/-- The parameters of a call over those of its model are numbers if both are. -/
theorem Sampling.Finite.merge {base call : Sampling} (first : base.Finite)
    (second : call.Finite) : (base.merge call).Finite where
  temperature x member := by
    rcases Option.or_eq_some_iff.1 member with set | ⟨-, set⟩
    · exact second.temperature x set
    · exact first.temperature x set
  topP x member := by
    rcases Option.or_eq_some_iff.1 member with set | ⟨-, set⟩
    · exact second.topP x set
    · exact first.topP x set

/-- A float that is a number is written as that number. -/
theorem map_float {value : Option Float} (finite : ∀ x ∈ value, x.isFinite = true) :
    value.map Value.float = value.map .real := by
  cases value with
  | none => rfl
  | some x => simp [Value.float, finite x rfl]

namespace Endpoint.Chat

/-- What a request holds under a name unless a further member takes its place: of the question
what was said, which tools are on offer and which may be chosen, and of the parameters those of
the question before those of the endpoint. -/
def member? (chat : Chat) (question : Question) : String → Option Value
  | "model" => some (.text chat.model)
  | "messages" => some (.list (question.messages.map fun message =>
      .object [("content", .text message.text), ("role", .text message.role.name)]))
  | "tools" =>
    if question.tools.isEmpty then none
    else some (.list (question.tools.map fun tool =>
      .object [("function", .object [("description", .text tool.description),
        ("name", .text tool.name), ("parameters", tool.parameters)]),
        ("type", .text "function")]))
  | "tool_choice" => question.choice.map ToolChoice.toJson
  | "temperature" =>
    (question.sampling.temperature.or chat.sampling.temperature).map .real
  | "max_tokens" =>
    (question.sampling.maxTokens.or chat.sampling.maxTokens).map fun n => .int n.toNat
  | "top_p" => (question.sampling.topP.or chat.sampling.topP).map .real
  | "top_k" => (question.sampling.topK.or chat.sampling.topK).map fun n => .int n.toNat
  | "stop" =>
    (question.sampling.stop.or chat.sampling.stop).map fun texts => .list (texts.map .text)
  | "seed" => (question.sampling.seed.or chat.sampling.seed).map fun n => .int n.toNat
  | _ => none

/-- The names that a request has apart from those of further members. -/
inductive Names (chat : Chat) (question : Question) : String → Prop
  | model : Names chat question "model"
  | messages : Names chat question "messages"
  | tools (offered : question.tools ≠ []) : Names chat question "tools"
  | choice (chosen : question.choice ≠ none) : Names chat question "tool_choice"
  | temperature (set : question.sampling.temperature ≠ none ∨ chat.sampling.temperature ≠ none) :
    Names chat question "temperature"
  | maxTokens (set : question.sampling.maxTokens ≠ none ∨ chat.sampling.maxTokens ≠ none) :
    Names chat question "max_tokens"
  | topP (set : question.sampling.topP ≠ none ∨ chat.sampling.topP ≠ none) :
    Names chat question "top_p"
  | topK (set : question.sampling.topK ≠ none ∨ chat.sampling.topK ≠ none) :
    Names chat question "top_k"
  | stop (set : question.sampling.stop ≠ none ∨ chat.sampling.stop ≠ none) :
    Names chat question "stop"
  | seed (set : question.sampling.seed ≠ none ∨ chat.sampling.seed ≠ none) :
    Names chat question "seed"

end Endpoint.Chat

/-- The last member with a name is among fields that have each name's own value. -/
theorem last?_present_map (value? : String → Option Value) (names : List String)
    (name : String) :
    Members.last? name (Members.present (names.map fun key => (key, value? key))) =
      if name ∈ names then value? name else none := by
  induction names with
  | nil => rfl
  | cons key rest ih =>
    rw [List.map_cons, Members.last?_present_cons, ih]
    by_cases same : key = name
    · subst same
      by_cases later : key ∈ rest <;> simp [later]
    · simp [same, Ne.symm same]

namespace Endpoint.Chat

/-- The names of the fields of a request. -/
def names : List String :=
  ["model", "messages", "tools", "tool_choice", "max_tokens", "seed", "stop", "temperature",
    "top_k", "top_p"]

/-- Under a name that is none of these a request holds nothing of its own. -/
theorem member?_eq_none (chat : Chat) (question : Question) {name : String}
    (other : name ∉ names) : chat.member? question name = none := by
  unfold member?
  split
  case h_11 => rfl
  all_goals exact absurd (by decide) other

/-- The fields of a request are its own names with what it is to hold under them. -/
theorem requestFields_eq (chat : Chat) (question : Question) (base : chat.sampling.Finite)
    (call : question.sampling.Finite) :
    requestFields chat.model (chat.complete question) =
      names.map fun name => (name, chat.member? question name) := by
  have finite := base.merge call
  have temperature : (chat.sampling.merge question.sampling).temperature.map Value.float =
      chat.member? question "temperature" := map_float finite.temperature
  have topP : (chat.sampling.merge question.sampling).topP.map Value.float =
      chat.member? question "top_p" := map_float finite.topP
  rw [requestFields, Sampling.fields, complete]
  simp only [temperature, topP]
  rfl

/-- The fields of a request hold what they are to hold. -/
theorem last?_requestFields (chat : Chat) (question : Question) (base : chat.sampling.Finite)
    (call : question.sampling.Finite) (name : String) :
    Members.last? name (Members.present (requestFields chat.model (chat.complete question))) =
      chat.member? question name := by
  rw [requestFields_eq chat question base call, last?_present_map]
  by_cases known : name ∈ names
  · exact if_pos known
  · rw [if_neg known, member?_eq_none chat question known]

/-- Parameters under a name are those of the question or of the endpoint. -/
theorem map_or_ne_none_iff {α : Type} {call base : Option α} {write : α → Value} :
    (call.or base).map write ≠ none ↔ call ≠ none ∨ base ≠ none := by
  cases call <;> simp

/-- A request holds something of its own exactly under its own names. -/
theorem member?_ne_none_iff (chat : Chat) (question : Question) (name : String) :
    chat.member? question name ≠ none ↔ Names chat question name := by
  constructor
  · intro found
    unfold member? at found
    split at found
    case h_1 => exact .model
    case h_2 => exact .messages
    case h_3 => exact .tools (by simpa using found)
    case h_4 => exact .choice (by simpa using found)
    case h_5 => exact .temperature (map_or_ne_none_iff.1 found)
    case h_6 => exact .maxTokens (map_or_ne_none_iff.1 found)
    case h_7 => exact .topP (map_or_ne_none_iff.1 found)
    case h_8 => exact .topK (map_or_ne_none_iff.1 found)
    case h_9 => exact .stop (map_or_ne_none_iff.1 found)
    case h_10 => exact .seed (map_or_ne_none_iff.1 found)
    case h_11 => contradiction
  · intro own
    cases own with
    | model => exact Option.some_ne_none _
    | messages => exact Option.some_ne_none _
    | tools offered => simpa [member?] using offered
    | choice chosen => simpa [member?] using chosen
    | temperature set => exact map_or_ne_none_iff.2 set
    | maxTokens set => exact map_or_ne_none_iff.2 set
    | topP set => exact map_or_ne_none_iff.2 set
    | topK set => exact map_or_ne_none_iff.2 set
    | stop set => exact map_or_ne_none_iff.2 set
    | seed set => exact map_or_ne_none_iff.2 set

/-- The members of the request for a question. -/
def members (chat : Chat) (question : Question) : Members :=
  Members.insertAll [] (Members.present (requestFields chat.model (chat.complete question)) ++
    chat.extra)

/-- A request holds the last further member under a name before what it has of its own. -/
theorem get?_members (chat : Chat) (question : Question) (base : chat.sampling.Finite)
    (call : question.sampling.Finite) (name : String) :
    (chat.members question).get? name =
      (Members.last? name chat.extra).or (chat.member? question name) := by
  rw [members, Members.get?_insertAll, Members.last?_append,
    last?_requestFields chat question base call]
  exact Option.or_none

/-- A request has the names of further members and its own. -/
theorem mem_names_iff (chat : Chat) (question : Question) (base : chat.sampling.Finite)
    (call : question.sampling.Finite) (name : String) :
    name ∈ (chat.members question).map Prod.fst ↔
      name ∈ chat.extra.map Prod.fst ∨ Names chat question name := by
  rw [← Members.get?_ne_none_iff, get?_members chat question base call,
    ← Members.last?_ne_none_iff, ← member?_ne_none_iff]
  cases Members.last? name chat.extra <;> simp

/-- A chat endpoint is sent one request for a question where it can be sent any, with its key and
its time limit, and no request otherwise. The body of the request, which is also the one that is
recorded, is an object with the names of the further members and those of the question and its
parameters, each of them once. Under each name it holds the last further member, and where there is
none what the question is to hold there, its own parameters before those of the endpoint. -/
theorem generate_sends (chat : Chat) (question : Question) (base : chat.sampling.Finite)
    (call : question.sampling.Finite) {σ : Type} (answer : Handler world σ) (state : σ) :
    ∃ members : Members, members.Ordered ∧
      (∀ name, name ∈ members.map Prod.fst ↔
        name ∈ chat.extra.map Prod.fst ∨ Names chat question name) ∧
      (∀ name, members.get? name =
        (Members.last? name chat.extra).or (chat.member? question name)) ∧
      (∀ url, (Endpoint.chat chat).Reaches url → (chat.generate question).posts answer state =
        [⟨url, chat.key.map ("Bearer " ++ ·), .object members, some chat.timeout⟩]) ∧
      ((∀ url, ¬(Endpoint.chat chat).Reaches url) →
        (chat.generate question).posts answer state = []) ∧
      ∃ response, ((chat.generate question).run answer state).1.exchange =
        some ⟨.object members, response⟩ := by
  have ordered : (chat.members question).Ordered := Members.Ordered.insertAll List.Pairwise.nil _
  have posts : (chat.generate question).posts answer state =
      ((Endpoint.chat chat).posting question).toOption.toList :=
    posts_generate (.chat chat) question answer state
  refine ⟨chat.members question, ordered, mem_names_iff chat question base call,
    get?_members chat question base call, fun url reaches => ?_, fun unreachable => ?_, ?_⟩
  · rw [posts, posting_eq_ok_iff.2 ⟨url, reaches, rfl⟩]
    rfl
  · rw [posts]
    cases posted : (Endpoint.chat chat).posting question with
    | error failure => rfl
    | ok post =>
      obtain ⟨url, reaches, -⟩ := posting_eq_ok_iff.1 posted
      exact absurd reaches (unreachable url)
  · have concluded := run_generate (.chat chat) question answer state
    obtain ⟨response, recorded⟩ := (ending_concluded (.chat chat) question
      ((Endpoint.chat chat).outcome question answer state)).exists_exchange
    exact ⟨response, (congrArg Generation.exchange concluded).trans recorded⟩

/-- A chat endpoint with parameters of its own and further members, of which one has the name of
a parameter and two have the same name. -/
def furnished : Chat where
  model := "m"
  address := "http://[::1]"
  key := some "key"
  sampling := { temperature := some 0.5, maxTokens := some 0, seed := some 7 }
  timeout := .ofSeconds 60
  extra := [("temperature", .int 1), ("custom", .text "a"), ("custom", .text "b")]

/-- A question with parameters, of which one is a list of no texts. -/
def parametrized : Question where
  messages := [.user (.text "Who?")]
  tools := []
  choice := none
  sampling := { temperature := some 0.25, topP := some 0.5, stop := some [], seed := some 0 }

/-- A world in which nothing is ever answered or there. -/
def deserted : Handler world Unit := fun _ event =>
  match event with
  | .post _ => (.unanswered true, ())
  | .wait _ => ((), ())
  | .now => (.ofSeconds 0, ())
  | .makeDirectory _ => (.ok (), ())
  | .isDirectory _ => (false, ())
  | .write .. => (.ok (), ())

/-- One request is posted. In it a further member goes before a parameter, the last one of a name
before the others, and a parameter of the question before that of the endpoint, though it be zero or
a list of nothing. -/
theorem generate_sends_furnished :
    furnished.sampling.Finite ∧ parametrized.sampling.Finite ∧
      ∃ (url : Url) (members : Members), (Endpoint.chat furnished).Reaches url ∧
        (furnished.generate parametrized).posts deserted () =
          [⟨url, some "Bearer key", .object members, some (.ofSeconds 60)⟩] ∧
        members.get? "temperature" = some (.int 1) ∧ members.get? "custom" = some (.text "b") ∧
        members.get? "seed" = some (.int 0) ∧ members.get? "max_tokens" = some (.int 0) ∧
        members.get? "stop" = some (.list []) ∧ members.get? "tools" = none := by
  have base : furnished.sampling.Finite := by
    constructor <;> decide
  have call : parametrized.sampling.Finite := by
    constructor <;> decide
  have reached : ((Url.parse? (furnished.address ++ path)).any Url.isDestination) = true := by
    decide +kernel
  obtain ⟨url, parsed, destination⟩ := (Option.any_eq_true ..).1 reached
  obtain ⟨members, -, -, held, sent, -⟩ :=
    generate_sends furnished parametrized base call deserted ()
  have reaches : (Endpoint.chat furnished).Reaches url := ⟨rfl, parsed, destination⟩
  exact ⟨base, call, url, members, reaches, sent url reaches, held _, held _, held _, held _,
    held _, held _⟩

end Endpoint.Chat
end Assay
