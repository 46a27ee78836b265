import Assay.Endpoint.Reply
import Assay.Proofs.Decoding

/-!
# What a chat endpoint's reply stands for

A reply may leave out almost everything, and what is absent is not always what is null: a choice
without a finish reason came to a natural end, while a null is no reason that is known. The output
is described here by the fields of the JSON value that was decoded, record by record: every choice
of the reply has its place in the output, with every tool call that it asks for, and what was not
given has its default (`toOutput_conveys`).
-/
namespace Assay.Endpoint

open Json

/-- The text in a field, or a default where the field is absent or null. -/
def textOr (default : String) (field : Option Value) : String :=
  (field.bind Value.text?).getD default

/-- The items in a field, of which an absent or null one has none. -/
def itemsOf (field : Option Value) : List Value :=
  field.elim [] Value.items

/-- Why a choice with a field for its finish reason ended: naturally where the field is absent, and
else for the reason that it names, of which null is none. -/
def stopReasonOf : Option Value → StopReason
  | none => .stop
  | some value => .ofWord? value.text?

/-- A tool call is the one that a value of a reply asks for. -/
structure ConveysCall (value : Value) (call : ToolCall) : Prop where
  /-- The id is that of the value, or empty. -/
  id : call.id = textOr "" (value.field? 0 "id")
  /-- The function has the name that the value gives it, or none. -/
  function : call.function = textOr "" ((value.field? 1 "function").bind (·.field? 0 "name"))
  /-- The kind is that of the value, or a function. -/
  kind : call.kind = textOr "function" (value.field? 2 "type")

/-- A choice of a model is the one that a value of a reply offers. -/
structure ConveysChoice (model : String) (value : Value) (choice : Choice) : Prop where
  /-- The message is one of the model, which has generated it, with the content of the value, or
  none. Its tool calls are those of the value, one for one and in order. -/
  message : ∃ toolCalls,
    choice.message = .assistant
      (.text (textOr "" ((value.field? 1 "message").bind (·.field? 1 "content")))) toolCalls
      (some model) (some "generate") ∧
    List.Forall₂ ConveysCall
      (itemsOf ((value.field? 1 "message").bind (·.field? 2 "tool_calls"))) toolCalls
  /-- The choice ended for the reason that the value names. -/
  stopReason : choice.stopReason = stopReasonOf (value.field? 2 "finish_reason")

/-- A token count of a reply, if it is given. -/
def countOf (value : Value) (place : Nat) (name : String) : Option Nat :=
  ((value.field? 3 "usage").bind (·.field? place name)).bind Value.count?

/-- An output is what a reply of a model that was asked stands for. -/
structure Conveys (asked : String) (value : Value) (output : Output) : Prop where
  /-- A reply is no error. -/
  error : output.error = none
  /-- The model is the one that the reply names, or the one that was asked. -/
  model : output.model = textOr asked (value.field? 1 "model")
  /-- The choices are those of the reply, one for one and in order. -/
  choices : List.Forall₂ (ConveysChoice output.model) (itemsOf (value.field? 2 "choices"))
    output.choices
  /-- There is a usage when one of the counts is given. -/
  usage : output.usage.isSome = true ↔
    (countOf value 0 "prompt_tokens").isSome = true ∨
      (countOf value 1 "completion_tokens").isSome = true ∨
      (countOf value 2 "total_tokens").isSome = true
  /-- A count that is not given is zero. -/
  counts : ∀ usage ∈ output.usage,
    usage.input.toNat = (countOf value 0 "prompt_tokens").getD 0 ∧
      usage.output.toNat = (countOf value 1 "completion_tokens").getD 0 ∧
      usage.total.toNat = (countOf value 2 "total_tokens").getD 0

section

variable {value : Value}

/-! ## Tool calls -/

/-- The fields that a function was read from. The members of an object are read in the order of
their names, and the items of a list in their own. -/
theorem ReplyFunction.fields_of_ofJson {function : ReplyFunction}
    (read : ReplyFunction.ofJson value = .ok function) :
    ∃ name arguments,
      Decode.optional (Decode.nullable Decode.text) (value.field? 0 "name") = .ok name ∧
      function = ⟨name.join, arguments⟩ := by
  rcases Decode.cases_of_record read with ⟨members, rfl, ofMembers⟩ | ⟨row, rfl, ofRow⟩
  · obtain ⟨arguments, -, ofMembers⟩ := exists_of_bind_eq_ok ofMembers
    obtain ⟨name, readName, ofMembers⟩ := exists_of_bind_eq_ok ofMembers
    exact ⟨name, arguments.join, readName, (Except.ok.inj ofMembers).symm⟩
  · obtain ⟨name, readName, ofRow⟩ := exists_of_bind_eq_ok ofRow
    obtain ⟨arguments, -, ofRow⟩ := exists_of_bind_eq_ok ofRow
    exact ⟨name, arguments.join, readName, (Except.ok.inj ofRow).symm⟩

/-- A function has the name that it was given. -/
theorem ReplyFunction.name_of_ofJson {function : ReplyFunction}
    (read : ReplyFunction.ofJson value = .ok function) :
    function.name = (value.field? 0 "name").bind Value.text? := by
  obtain ⟨name, arguments, readName, rfl⟩ := fields_of_ofJson read
  exact (Decode.given_of_optional readName).text

/-- The fields that a tool call was read from. -/
theorem ReplyCall.fields_of_ofJson {call : ReplyCall} (read : ReplyCall.ofJson value = .ok call) :
    ∃ id function kind,
      Decode.optional (Decode.nullable Decode.text) (value.field? 0 "id") = .ok id ∧
      Decode.optional (Decode.nullable ReplyFunction.ofJson) (value.field? 1 "function") =
        .ok function ∧
      Decode.optional (Decode.nullable Decode.text) (value.field? 2 "type") = .ok kind ∧
      call = ⟨id.join, function.join, kind.join⟩ := by
  rcases Decode.cases_of_record read with ⟨members, rfl, ofMembers⟩ | ⟨row, rfl, ofRow⟩
  · obtain ⟨function, readFunction, ofMembers⟩ := exists_of_bind_eq_ok ofMembers
    obtain ⟨id, readId, ofMembers⟩ := exists_of_bind_eq_ok ofMembers
    obtain ⟨kind, readKind, ofMembers⟩ := exists_of_bind_eq_ok ofMembers
    exact ⟨id, function, kind, readId, readFunction, readKind, (Except.ok.inj ofMembers).symm⟩
  · obtain ⟨id, readId, ofRow⟩ := exists_of_bind_eq_ok ofRow
    obtain ⟨function, readFunction, ofRow⟩ := exists_of_bind_eq_ok ofRow
    obtain ⟨kind, readKind, ofRow⟩ := exists_of_bind_eq_ok ofRow
    exact ⟨id, function, kind, readId, readFunction, readKind, (Except.ok.inj ofRow).symm⟩

/-- The tool call that a reply stands for is the one that was read. -/
theorem ReplyCall.toCall_conveys {call : ReplyCall} (read : ReplyCall.ofJson value = .ok call) :
    ConveysCall value call.toCall := by
  obtain ⟨id, function, kind, readId, readFunction, readKind, rfl⟩ := fields_of_ofJson read
  have name : (function.join.getD {}).name =
      ((value.field? 1 "function").bind (·.field? 0 "name")).bind Value.text? := by
    have given := Decode.given_of_optional readFunction
    generalize value.field? 1 "function" = field at given
    cases given with
    | absent => rfl
    | null => rfl
    | value _ given => exact ReplyFunction.name_of_ofJson given
  constructor
  · exact congrArg (·.getD "") (Decode.given_of_optional readId).text
  · exact congrArg (·.getD "") name
  · exact congrArg (·.getD "function") (Decode.given_of_optional readKind).text

/-! ## Choices -/

/-- The fields that the message of a choice was read from. -/
theorem ReplyMessage.fields_of_ofJson {message : ReplyMessage}
    (read : ReplyMessage.ofJson value = .ok message) :
    ∃ role content toolCalls,
      Decode.optional (Decode.nullable Decode.text) (value.field? 1 "content") = .ok content ∧
      Decode.optional (Decode.nullable (Decode.list ReplyCall.ofJson))
        (value.field? 2 "tool_calls") = .ok toolCalls ∧
      message = ⟨role, content.join, toolCalls.join⟩ := by
  rcases Decode.cases_of_record read with ⟨members, rfl, ofMembers⟩ | ⟨row, rfl, ofRow⟩
  · obtain ⟨content, readContent, ofMembers⟩ := exists_of_bind_eq_ok ofMembers
    obtain ⟨role, -, ofMembers⟩ := exists_of_bind_eq_ok ofMembers
    obtain ⟨toolCalls, readCalls, ofMembers⟩ := exists_of_bind_eq_ok ofMembers
    exact ⟨role.join, content, toolCalls, readContent, readCalls, (Except.ok.inj ofMembers).symm⟩
  · obtain ⟨role, -, ofRow⟩ := exists_of_bind_eq_ok ofRow
    obtain ⟨content, readContent, ofRow⟩ := exists_of_bind_eq_ok ofRow
    obtain ⟨toolCalls, readCalls, ofRow⟩ := exists_of_bind_eq_ok ofRow
    exact ⟨role.join, content, toolCalls, readContent, readCalls, (Except.ok.inj ofRow).symm⟩

/-- The content of a message is the one that was given, and its tool calls are those that were,
one for one and in order. -/
theorem ReplyMessage.of_ofJson {message : ReplyMessage}
    (read : ReplyMessage.ofJson value = .ok message) :
    message.content = (value.field? 1 "content").bind Value.text? ∧
      List.Forall₂ ConveysCall (itemsOf (value.field? 2 "tool_calls"))
        ((message.toolCalls.getD []).map ReplyCall.toCall) := by
  obtain ⟨role, content, toolCalls, readContent, readCalls, rfl⟩ := fields_of_ofJson read
  refine ⟨(Decode.given_of_optional readContent).text, ?_⟩
  have given := Decode.given_of_optional readCalls
  generalize value.field? 2 "tool_calls" = field at given
  rw [List.forall₂_map_right_iff]
  cases given with
  | absent => exact .nil
  | null => exact .nil
  | value _ given =>
    exact (Decode.forall₂_of_list given).imp fun _ _ readCall => ReplyCall.toCall_conveys readCall

/-- The fields that a choice was read from. -/
theorem ReplyChoice.fields_of_ofJson {choice : ReplyChoice}
    (read : ReplyChoice.ofJson value = .ok choice) :
    ∃ index message finishReason,
      Decode.optional ReplyMessage.ofJson (value.field? 1 "message") = .ok message ∧
      Decode.optional (Decode.nullable Decode.text) (value.field? 2 "finish_reason") =
        .ok finishReason ∧
      choice = ⟨index, message.getD {}, finishReason.getD (some "stop")⟩ := by
  rcases Decode.cases_of_record read with ⟨members, rfl, ofMembers⟩ | ⟨row, rfl, ofRow⟩
  · obtain ⟨finishReason, readReason, ofMembers⟩ := exists_of_bind_eq_ok ofMembers
    obtain ⟨index, -, ofMembers⟩ := exists_of_bind_eq_ok ofMembers
    obtain ⟨message, readMessage, ofMembers⟩ := exists_of_bind_eq_ok ofMembers
    exact ⟨index.join, message, finishReason, readMessage, readReason,
      (Except.ok.inj ofMembers).symm⟩
  · obtain ⟨index, -, ofRow⟩ := exists_of_bind_eq_ok ofRow
    obtain ⟨message, readMessage, ofRow⟩ := exists_of_bind_eq_ok ofRow
    obtain ⟨finishReason, readReason, ofRow⟩ := exists_of_bind_eq_ok ofRow
    exact ⟨index.join, message, finishReason, readMessage, readReason,
      (Except.ok.inj ofRow).symm⟩

/-- A finish reason that is absent is a natural end, one that is null is none, and any other one
says what it says. -/
theorem stopReason_of_given {field : Option Value} {found : Option (Option String)}
    (given : Decode.Given Decode.text field found) :
    StopReason.ofWord? (found.getD (some "stop")) = stopReasonOf field := by
  cases given with
  | absent => rfl
  | null => rfl
  | value _ read =>
    rw [stopReasonOf, Decode.text?_of_text read]
    rfl

/-- The choice that a reply stands for is the one that was read. -/
theorem ReplyChoice.toChoice_conveys {choice : ReplyChoice} (model : String)
    (read : ReplyChoice.ofJson value = .ok choice) :
    ConveysChoice model value (choice.toChoice model) := by
  obtain ⟨index, message, finishReason, readMessage, readReason, rfl⟩ := fields_of_ofJson read
  have given : ((message.getD {}).content.getD "" =
        textOr "" ((value.field? 1 "message").bind (·.field? 1 "content"))) ∧
      List.Forall₂ ConveysCall
        (itemsOf ((value.field? 1 "message").bind (·.field? 2 "tool_calls")))
        (((message.getD {}).toolCalls.getD []).map ReplyCall.toCall) := by
    rcases Decode.cases_of_optional readMessage with
      ⟨absent, rfl⟩ | ⟨written, inner, there, readInner, rfl⟩
    · rw [absent]
      exact ⟨rfl, .nil⟩
    · rw [there]
      obtain ⟨content, toolCalls⟩ := ReplyMessage.of_ofJson readInner
      exact ⟨congrArg (·.getD "") content, toolCalls⟩
  exact
    { message := ⟨_, congrArg (Message.generated · model _) given.1, given.2⟩
      stopReason := stopReason_of_given (Decode.given_of_optional readReason) }

/-! ## Token counts -/

/-- The fields that token counts were read from. -/
theorem ReplyUsage.fields_of_ofJson {usage : ReplyUsage}
    (read : ReplyUsage.ofJson value = .ok usage) :
    ∃ prompt completion total,
      Decode.optional (Decode.nullable Decode.word64) (value.field? 0 "prompt_tokens") =
        .ok prompt ∧
      Decode.optional (Decode.nullable Decode.word64) (value.field? 1 "completion_tokens") =
        .ok completion ∧
      Decode.optional (Decode.nullable Decode.word64) (value.field? 2 "total_tokens") =
        .ok total ∧
      usage = ⟨prompt.join, completion.join, total.join⟩ := by
  rcases Decode.cases_of_record read with ⟨members, rfl, ofMembers⟩ | ⟨row, rfl, ofRow⟩
  · obtain ⟨completion, readCompletion, ofMembers⟩ := exists_of_bind_eq_ok ofMembers
    obtain ⟨prompt, readPrompt, ofMembers⟩ := exists_of_bind_eq_ok ofMembers
    obtain ⟨total, readTotal, ofMembers⟩ := exists_of_bind_eq_ok ofMembers
    exact ⟨prompt, completion, total, readPrompt, readCompletion, readTotal,
      (Except.ok.inj ofMembers).symm⟩
  · obtain ⟨prompt, readPrompt, ofRow⟩ := exists_of_bind_eq_ok ofRow
    obtain ⟨completion, readCompletion, ofRow⟩ := exists_of_bind_eq_ok ofRow
    obtain ⟨total, readTotal, ofRow⟩ := exists_of_bind_eq_ok ofRow
    exact ⟨prompt, completion, total, readPrompt, readCompletion, readTotal,
      (Except.ok.inj ofRow).symm⟩

/-- The counts are those that were given. -/
theorem ReplyUsage.of_ofJson {usage : ReplyUsage} (read : ReplyUsage.ofJson value = .ok usage) :
    usage.prompt.map UInt64.toNat = (value.field? 0 "prompt_tokens").bind Value.count? ∧
      usage.completion.map UInt64.toNat =
        (value.field? 1 "completion_tokens").bind Value.count? ∧
      usage.total.map UInt64.toNat = (value.field? 2 "total_tokens").bind Value.count? := by
  obtain ⟨prompt, completion, total, readPrompt, readCompletion, readTotal, rfl⟩ :=
    fields_of_ofJson read
  exact ⟨(Decode.given_of_optional readPrompt).word64,
    (Decode.given_of_optional readCompletion).word64, (Decode.given_of_optional readTotal).word64⟩

/-- There is a usage when there is a count. -/
theorem ReplyUsage.isSome_bind_toUsage?_iff (usage : Option ReplyUsage) :
    (usage.bind toUsage?).isSome = true ↔
      (usage.bind prompt).isSome = true ∨ (usage.bind completion).isSome = true ∨
        (usage.bind total).isSome = true := by
  cases usage with
  | none => simp
  | some usage =>
    change usage.toUsage?.isSome = true ↔ usage.prompt.isSome = true ∨
      usage.completion.isSome = true ∨ usage.total.isSome = true
    unfold toUsage?
    cases usage.prompt <;> cases usage.completion <;> cases usage.total <;> simp

/-- A count that is not there is zero. -/
theorem ReplyUsage.of_mem_bind_toUsage? {usage : Option ReplyUsage} {counted : Usage}
    (made : counted ∈ usage.bind toUsage?) :
    counted = ⟨(usage.bind prompt).getD 0, (usage.bind completion).getD 0,
      (usage.bind total).getD 0⟩ := by
  obtain ⟨given, rfl, there⟩ := Option.mem_bind_iff.mp made
  unfold toUsage? at there
  split at there
  · contradiction
  · exact (Option.some.inj there).symm

/-- The number of a count, if it is there. -/
theorem toNat_getD_zero (count : Option UInt64) :
    (count.getD 0).toNat = (count.map UInt64.toNat).getD 0 := by
  cases count <;> rfl

/-! ## Replies -/

/-- The fields that a reply was read from. -/
theorem Reply.fields_of_ofJson {reply : Reply} (read : Reply.ofJson value = .ok reply) :
    ∃ id model choices usage,
      Decode.optional (Decode.nullable Decode.text) (value.field? 1 "model") = .ok model ∧
      Decode.optional (Decode.list ReplyChoice.ofJson) (value.field? 2 "choices") =
        .ok choices ∧
      Decode.optional (Decode.nullable ReplyUsage.ofJson) (value.field? 3 "usage") =
        .ok usage ∧
      reply = ⟨id, model.join, choices.getD [], usage.join⟩ := by
  rcases Decode.cases_of_record read with ⟨members, rfl, ofMembers⟩ | ⟨row, rfl, ofRow⟩
  · obtain ⟨choices, readChoices, ofMembers⟩ := exists_of_bind_eq_ok ofMembers
    obtain ⟨id, -, ofMembers⟩ := exists_of_bind_eq_ok ofMembers
    obtain ⟨model, readModel, ofMembers⟩ := exists_of_bind_eq_ok ofMembers
    obtain ⟨usage, readUsage, ofMembers⟩ := exists_of_bind_eq_ok ofMembers
    exact ⟨id.join, model, choices, usage, readModel, readChoices, readUsage,
      (Except.ok.inj ofMembers).symm⟩
  · obtain ⟨id, -, ofRow⟩ := exists_of_bind_eq_ok ofRow
    obtain ⟨model, readModel, ofRow⟩ := exists_of_bind_eq_ok ofRow
    obtain ⟨choices, readChoices, ofRow⟩ := exists_of_bind_eq_ok ofRow
    obtain ⟨usage, readUsage, ofRow⟩ := exists_of_bind_eq_ok ofRow
    exact ⟨id.join, model, choices, usage, readModel, readChoices, readUsage,
      (Except.ok.inj ofRow).symm⟩

/-- The counts of a reply are those that were given. -/
theorem counts_of_given {field : Option Value} {found : Option (Option ReplyUsage)}
    (given : Decode.Given ReplyUsage.ofJson field found) :
    (found.join.bind ReplyUsage.prompt).map UInt64.toNat =
        (field.bind (·.field? 0 "prompt_tokens")).bind Value.count? ∧
      (found.join.bind ReplyUsage.completion).map UInt64.toNat =
        (field.bind (·.field? 1 "completion_tokens")).bind Value.count? ∧
      (found.join.bind ReplyUsage.total).map UInt64.toNat =
        (field.bind (·.field? 2 "total_tokens")).bind Value.count? := by
  cases given with
  | absent => exact ⟨rfl, rfl, rfl⟩
  | null => exact ⟨rfl, rfl, rfl⟩
  | value _ read => exact ReplyUsage.of_ofJson read

/-- An output that comes of a decoded reply has all of its choices and tool calls, in their order,
and what the reply leaves out has its default. -/
theorem Reply.toOutput_conveys {reply : Reply} (asked : String)
    (read : Reply.ofJson value = .ok reply) : Conveys asked value (reply.toOutput asked) := by
  obtain ⟨id, model, choices, usage, readModel, readChoices, readUsage, rfl⟩ :=
    fields_of_ofJson read
  obtain ⟨prompt, completion, total⟩ := counts_of_given (Decode.given_of_optional readUsage)
  constructor
  case error => rfl
  case model => exact congrArg (·.getD asked) (Decode.given_of_optional readModel).text
  case choices =>
    change List.Forall₂ _ _
      ((choices.getD []).map (ReplyChoice.toChoice (model.join.getD asked)))
    rw [List.forall₂_map_right_iff]
    rcases Decode.cases_of_optional readChoices with
      ⟨absent, rfl⟩ | ⟨written, inner, there, readInner, rfl⟩
    · rw [absent]
      exact .nil
    · rw [there]
      exact (Decode.forall₂_of_list readInner).imp fun _ _ readChoice =>
        ReplyChoice.toChoice_conveys _ readChoice
  case usage =>
    unfold countOf
    rw [← prompt, ← completion, ← total]
    simp only [Option.isSome_map]
    exact ReplyUsage.isSome_bind_toUsage?_iff usage.join
  case counts =>
    intro counted made
    obtain rfl := ReplyUsage.of_mem_bind_toUsage? made
    unfold countOf
    rw [← prompt, ← completion, ← total]
    exact ⟨toNat_getD_zero _, toNat_getD_zero _, toNat_getD_zero _⟩

end

/-- A reply of a choice without a finish reason and of one without anything but a null for it. -/
def sparse : Value :=
  .object [
    ("choices", .list [
      .object [("message", .object [("content", .null),
        ("tool_calls", .list [.object [("function", .object [("name", .text "search")])]])])],
      .object [("finish_reason", .null)]]),
    ("usage", .object [("total_tokens", .int 12)])]

/-- The output of the reply has the model that was asked, both choices, the call without an id and
a count of the total alone. -/
theorem Reply.toOutput_conveys_sparse :
    Conveys "large" sparse
      ⟨"large",
        [⟨.generated "" "large" [⟨"", "search", .object [], "function"⟩], .stop⟩,
          ⟨.generated "" "large" [], .unknown⟩],
        some ⟨0, 0, 12⟩, none⟩ := by
  have read : Reply.ofJson sparse = .ok ⟨none, none,
      [⟨none, ⟨none, none, some [⟨none, some ⟨some "search", none⟩, none⟩]⟩, some "stop"⟩,
        ⟨none, {}, none⟩],
      some ⟨none, none, some 12⟩⟩ := rfl
  exact Reply.toOutput_conveys "large" read

end Assay.Endpoint
