import Assay.Output
import Assay.Sample

/-!
# Records in JSON and back

What is written of a record is read back as that record. A decoder inverts an encoder when this is
so of every value, and the law is kept by lists, by fields that may be absent and by fields that
are left out when they are empty: in each of these the reader's default for a field that is not
there is what the writer leaves out. `ofJson_toJson` says it of the outputs of models, with all
that they hold, and of samples.
-/
namespace Assay

open Json

namespace Json

variable {α : Type}

/-- A decoder inverts an encoder when it reads every value back from what is written of it. -/
def Decoder.Inverts (decode : Decoder α) (encode : α → Value) : Prop :=
  ∀ value, decode (encode value) = .ok value

/-- A member of fields is the first one with its name that is present. -/
@[simp] theorem Members.get?_present_cons (name key : String) (value? : Option Value)
    (rest : List (String × Option Value)) :
    (present ((key, value?) :: rest)).get? name =
      if key = name then value?.or ((present rest).get? name)
      else (present rest).get? name := by
  cases value? with
  | none =>
    have absent : present ((key, none) :: rest) = present rest := rfl
    rw [absent]
    by_cases same : key = name
    · rw [if_pos same, Option.none_or]
    · rw [if_neg same]
  | some value =>
    have there : present ((key, some value) :: rest) = (key, value) :: present rest := rfl
    rw [there, get?]
    by_cases same : key = name
    · rw [if_pos same, if_pos same, Option.some_or]
    · rw [if_neg same, if_neg same]

/-- Nothing is a member of no fields. -/
@[simp] theorem Members.get?_present_nil (name : String) : (present []).get? name = none := rfl

/-- The members of a value that is an object. -/
def Value.members : Value → Members
  | .object members => members
  | _ => []

/-- The members of an object of fields are those that are present. -/
@[simp] theorem Value.members_ofFields (fields : List (String × Option Value)) :
    (Value.ofFields fields).members = Members.present fields := rfl

section

variable {decode : Decoder α} {encode : α → Value} {members : Members} {name : String}

/-- Items that are read back one by one are read back as a list. -/
theorem Decoder.Inverts.items (inverts : decode.Inverts encode) (values : List α) :
    Decode.items decode (values.map encode) = .ok values := by
  induction values with
  | nil => rfl
  | cons value values ih =>
    rw [List.map_cons, Decode.items, inverts value, ih]
    rfl

/-- A list is read back when its items are. -/
theorem Decoder.Inverts.list (inverts : decode.Inverts encode) :
    (Decode.list decode).Inverts fun values => .list (values.map encode) :=
  inverts.items

/-- A field is read as what its value is read as. -/
theorem Members.field?_of_get? {held : Value} {value : α}
    (found : members.get? name = some held) (read : decode held = .ok value) :
    members.field? name decode = .ok (some value) := by
  rw [Members.field?, found]
  simp only [read]
  rfl

/-- A field that is always written is read back. -/
theorem Decoder.Inverts.field (inverts : decode.Inverts encode) {value : α}
    (found : members.get? name = some (encode value)) :
    members.field? name decode = .ok (some value) :=
  Members.field?_of_get? found (inverts value)

/-- A field that is written when there is a value is read back, also when there is none. -/
theorem Decoder.Inverts.nullableField (inverts : decode.Inverts encode)
    (proper : ∀ value, encode value ≠ .null) {value? : Option α}
    (found : members.get? name = value?.map encode) :
    ∃ read?, members.field? name (Decode.nullable decode) = .ok read? ∧
      read?.join = value? := by
  cases value? with
  | none =>
    refine ⟨none, ?_, rfl⟩
    rw [Members.field?, found]
    rfl
  | some value =>
    have read : Decode.nullable decode (encode value) = .ok (some value) := by
      rw [Decode.nullable_of_ne_null decode (proper value), inverts value]
      rfl
    refine ⟨some (some value), ?_, rfl⟩
    rw [Members.field?, found]
    simp only [Option.map_some, read]
    rfl

/-- A list that is written unless it is empty is read back, where no list stands for an empty
one. -/
theorem Decoder.Inverts.listField {decode : Decoder (List α)} {encode : List α → Value}
    (inverts : decode.Inverts encode) {values : List α}
    (found : members.get? name = if values.isEmpty then none else some (encode values)) :
    ∃ values?, members.field? name decode = .ok values? ∧ values?.getD [] = values := by
  cases values with
  | nil =>
    refine ⟨none, ?_, rfl⟩
    rw [Members.field?, found]
    rfl
  | cons value values =>
    exact ⟨some (value :: values), inverts.field found, rfl⟩

end

/-- A text is read back. -/
theorem Decode.text_inverts : Decode.text.Inverts .text := fun _ => rfl

/-- Texts are read back. -/
theorem Decode.texts_inverts : (Decode.list Decode.text).Inverts Value.texts :=
  Decode.text_inverts.list

/-- The members of an object are read back. -/
theorem Decode.members_inverts : Decode.members.Inverts .object := fun _ => rfl

/-- A natural below a bound is read back. -/
theorem Decode.below_nat {n bound : Nat} (small : n < bound) (name : String) :
    Decode.below bound name (.nat n) = .ok n := by
  have range : (0 : Int) ≤ n ∧ (n : Int) < bound := by omega
  rw [Value.nat.eq_1, Decode.below, if_pos range, Int.toNat_natCast]

/-- A number of 64 bits is read back. -/
theorem Decode.word64_inverts : Decode.word64.Inverts fun n => .nat n.toNat := by
  intro n
  have small : n.toNat < Number.word64Bound := n.toNat_lt
  have read := Decode.below_nat small "u64"
  rw [Decode.word64, read]
  exact congrArg Except.ok UInt64.ofNat_toNat

end Json

/-! ## Messages -/

/-- A tool call is read back, on its own and as part of a message. -/
theorem ToolCall.reader_inverts (tellsFields : Bool) :
    (ToolCall.reader tellsFields).Inverts ToolCall.toJson := fun _ => rfl

namespace Content

/-- A part of a content is read back. -/
theorem ofJson?_part (part : Part) : Part.ofJson? part.toJson = some part := by
  cases part with
  | text content => rfl
  | image source => rfl

/-- Parts of a content are read back. -/
theorem mapM_ofJson?_parts (items : List Part) :
    (items.map Part.toJson).mapM Part.ofJson? = some items := by
  induction items with
  | nil => rfl
  | cons part items ih =>
    rw [List.map_cons, List.mapM_cons, ofJson?_part, ih]
    rfl

/-- A content is read back: a text as a text, and parts as parts. -/
theorem ofJson_inverts : Decoder.Inverts Content.ofJson Content.toJson := by
  intro content
  cases content with
  | text content => rfl
  | parts items =>
    rw [Content.toJson, Content.ofJson, mapM_ofJson?_parts]

end Content

/-- A role is read back from its word. -/
theorem Role.ofJson_name (role : Role) : Role.ofJson (.text role.name) = .ok role := by
  cases role <;> rfl

/-- A text is not null. -/
theorem text_ne_null (content : String) : Value.text content ≠ .null := nofun

namespace Message

/-- A message is written as an object. -/
theorem toJson_eq (message : Message) : message.toJson = .object message.toJson.members := by
  cases message <;> rfl

/-- A message says its role. -/
theorem get?_role (message : Message) :
    Members.get? "role" message.toJson.members = some (.text message.role.name) := by
  cases message <;> simp [toJson]

/-- A message says its content. -/
theorem get?_content (message : Message) :
    Members.get? "content" message.toJson.members = some message.content.toJson := by
  cases message <;> simp [toJson]

/-- Of a message the role is read first, and it says what the fields are read as. -/
theorem ofJson_toJson_eq (message : Message) :
    ofJson message.toJson = ofMembers message.role message.toJson.members := by
  rw [toJson_eq, ofJson, ← toJson_eq, get?_role]
  simp only [Role.ofJson_name]
  rfl

/-- A message is read back. Fields that were left out stand for what made them be left out. -/
theorem ofJson_inverts : Decoder.Inverts Message.ofJson Message.toJson := by
  intro message
  have read := ofJson_toJson_eq message
  have content := Content.ofJson_inverts.field (get?_content message)
  cases message with
  | system said =>
    rw [read, role, ofMembers, content]
    rfl
  | user said =>
    rw [read, role, ofMembers, content]
    rfl
  | assistant said toolCalls model source =>
    let members := (assistant said toolCalls model source).toJson.members
    have writtenModel : Members.get? "model" members = model.map .text := by
      simp [members, toJson]
    have writtenSource : Members.get? "source" members = source.map .text := by
      simp [members, toJson]
    have writtenCalls : Members.get? "tool_calls" members = if toolCalls.isEmpty then none
        else some (.list (toolCalls.map ToolCall.toJson)) := by simp [members, toJson]
    obtain ⟨model?, readModel, rfl⟩ :=
      Decode.text_inverts.nullableField text_ne_null writtenModel
    obtain ⟨source?, readSource, rfl⟩ :=
      Decode.text_inverts.nullableField text_ne_null writtenSource
    obtain ⟨calls?, readCalls, rfl⟩ := (ToolCall.reader_inverts true).list.listField writtenCalls
    rw [read, role, ofMembers, content, readModel, readSource, readCalls]
    rfl
  | tool said callId function =>
    let members := (tool said callId function).toJson.members
    have writtenFunction : Members.get? "function" members = function.map .text := by
      simp [members, toJson]
    have writtenId : Members.get? "tool_call_id" members = callId.map .text := by
      simp [members, toJson]
    obtain ⟨function?, readFunction, rfl⟩ :=
      Decode.text_inverts.nullableField text_ne_null writtenFunction
    obtain ⟨callId?, readId, rfl⟩ := Decode.text_inverts.nullableField text_ne_null writtenId
    rw [read, role, ofMembers, content, readFunction, readId]
    rfl

end Message

/-! ## Outputs and samples -/

/-- A reason to stop is read back from its word. -/
theorem StopReason.ofJson_inverts : Decoder.Inverts StopReason.ofJson StopReason.toJson := by
  intro reason
  cases reason <;> rfl

/-- A choice is read back. -/
theorem Choice.ofJson_inverts : Decoder.Inverts Choice.ofJson Choice.toJson := by
  intro choice
  let members := choice.toJson.members
  have shape : choice.toJson = .object members := rfl
  have message : members.field? "message" Message.ofJson = .ok (some choice.message) :=
    Message.ofJson_inverts.field rfl
  have reason : members.field? "stop_reason" StopReason.ofJson = .ok (some choice.stopReason) :=
    StopReason.ofJson_inverts.field rfl
  rw [shape, ofJson, Decode.record, message, reason]
  rfl

/-- Token counts are read back. -/
theorem Usage.ofJson_inverts : Decoder.Inverts Usage.ofJson Usage.toJson := by
  intro usage
  let members := usage.toJson.members
  have shape : usage.toJson = .object members := rfl
  have input : members.field? "input_tokens" Decode.word64 = .ok (some usage.input) :=
    Decode.word64_inverts.field rfl
  have output : members.field? "output_tokens" Decode.word64 = .ok (some usage.output) :=
    Decode.word64_inverts.field rfl
  have total : members.field? "total_tokens" Decode.word64 = .ok (some usage.total) :=
    Decode.word64_inverts.field rfl
  rw [shape, ofJson, Decode.record, input, output, total]
  rfl

/-- The output of a model is read back. -/
theorem Output.ofJson_inverts : Decoder.Inverts Output.ofJson Output.toJson := by
  intro output
  obtain ⟨model, choices, usage, error⟩ := output
  let members := (Output.toJson ⟨model, choices, usage, error⟩).members
  have shape : Output.toJson ⟨model, choices, usage, error⟩ = .object members := rfl
  have writtenChoices : Members.get? "choices" members =
      some (.list (choices.map Choice.toJson)) := by simp [members, toJson]
  have writtenError : Members.get? "error" members = error.map .text := by
    simp [members, toJson]
  have writtenModel : Members.get? "model" members = some (.text model) := by
    simp [members, toJson]
  have writtenUsage : Members.get? "usage" members = usage.map Usage.toJson := by
    simp [members, toJson]
  have readChoices := Choice.ofJson_inverts.list.field writtenChoices
  have readModel := Decode.text_inverts.field writtenModel
  obtain ⟨error?, readError, rfl⟩ := Decode.text_inverts.nullableField text_ne_null writtenError
  obtain ⟨usage?, readUsage, rfl⟩ :=
    Usage.ofJson_inverts.nullableField (fun _ => nofun) writtenUsage
  rw [shape, ofJson, Decode.record, readChoices, readError, readModel, readUsage]
  rfl

/-- A sample is read back. -/
theorem Sample.ofJson_inverts : Decoder.Inverts Sample.ofJson Sample.toJson := by
  intro sample
  obtain ⟨id, input, target, metadata⟩ := sample
  let members := (Sample.toJson ⟨id, input, target, metadata⟩).members
  have shape : Sample.toJson ⟨id, input, target, metadata⟩ = .object members := rfl
  have writtenId : Members.get? "id" members = id.map .text := by simp [members, toJson]
  have writtenInput : Members.get? "input" members = some (.text input) := by
    simp [members, toJson]
  have writtenMetadata : Members.get? "metadata" members =
      if metadata.isEmpty then none else some (.object metadata) := by simp [members, toJson]
  have writtenTarget : Members.get? "target" members = some (.texts target) := by
    simp [members, toJson]
  have readInput := Decode.text_inverts.field writtenInput
  have readTarget := Decode.texts_inverts.field writtenTarget
  obtain ⟨id?, readId, rfl⟩ := Decode.text_inverts.nullableField text_ne_null writtenId
  obtain ⟨metadata?, readMetadata, rfl⟩ := Decode.members_inverts.listField writtenMetadata
  rw [shape, ofJson, Decode.record, readId, readInput, readMetadata, readTarget]
  rfl

/-- What is written of the output of a model is read back as that output, and what is written of
a sample as that sample. -/
theorem ofJson_toJson (output : Output) (sample : Sample) :
    Output.ofJson output.toJson = .ok output ∧ Sample.ofJson sample.toJson = .ok sample :=
  ⟨Output.ofJson_inverts output, Sample.ofJson_inverts sample⟩

end Assay
