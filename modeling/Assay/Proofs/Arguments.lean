import Assay.Endpoint.Reply
import Assay.Proofs.Decoding
import Assay.Proofs.Null

/-!
# What the arguments of a tool call are

An endpoint gives the arguments of a tool call as a value or as a text that holds one. Both ways
are to stand for the same call, and arguments that are absent or null for an empty object, so that
no call has null for its arguments (`Reply.KeepsArguments`). One kind of text gets past this: the
word for null is read after the default is set, and its call has null itself. This is the only
exception (`Reply.keepsArguments_iff`).
-/
namespace Assay

open Json

/-- The tool calls of all choices of an output. -/
def Output.toolCalls (output : Output) : List ToolCall :=
  output.choices.flatMap (·.message.toolCalls)

namespace Endpoint

namespace ReplyCall

variable (call : ReplyCall)

/-- The arguments that a call gives. -/
def arguments? : Option Value :=
  call.function.bind ReplyFunction.arguments

/-- The call with a value for its arguments. -/
def withArguments (value : Value) : ReplyCall :=
  { call with function := some { call.function.getD {} with arguments := some value } }

/-- The call gives its arguments in a text that is null. -/
def GivesNullText : Prop :=
  ∃ content, call.arguments? = some (.text content) ∧ SpellsNull content.toList

end ReplyCall

/-- The tool calls of all choices of a reply. -/
def Reply.toolCalls (reply : Reply) : List ReplyCall :=
  reply.choices.flatMap (·.message.toolCalls.getD [])

/-- The arguments of the tool calls in a reply are kept: it does not matter whether they are given
as a value or in a text, and they are never null. -/
structure Reply.KeepsArguments (asked : String) (reply : Reply) : Prop where
  /-- A call with its arguments in a text that holds a value, which is not a text itself, stands
  for the same call as with the value. -/
  inline : ∀ call ∈ reply.toolCalls, ∀ content value, call.arguments? = some (.text content) →
    parse content = .ok value → value.text? = none →
      call.toCall = (call.withArguments value).toCall
  /-- Arguments that are absent or null are an empty object. -/
  absent : ∀ call ∈ reply.toolCalls,
    call.arguments? = none ∨ call.arguments? = some .null → call.toCall.arguments = .object []
  /-- No call that comes of the reply has null for its arguments. -/
  proper : ∀ call ∈ (reply.toOutput asked).toolCalls, call.arguments ≠ .null

namespace ReplyFunction

variable {function : ReplyFunction}

/-- Arguments in a text that holds a value are the value. -/
theorem argumentValue_of_parse {content : String} {value : Value}
    (given : function.arguments = some (.text content)) (read : parse content = .ok value) :
    function.argumentValue = value := by
  rw [argumentValue, given]
  simp only [read]

/-- Arguments that are given as a value are the value, unless it is null or a text. -/
theorem argumentValue_of_value {value : Value} (given : function.arguments = some value)
    (proper : value ≠ .null) (inline : value.text? = none) : function.argumentValue = value := by
  rw [argumentValue, given]
  cases value with
  | null => contradiction
  | text content => contradiction
  | _ => rfl

/-- Arguments that are absent or null are an empty object. -/
theorem argumentValue_of_absent
    (absent : function.arguments = none ∨ function.arguments = some .null) :
    function.argumentValue = .object [] := by
  rcases absent with given | given <;> rw [argumentValue, given]

/-- Arguments are null only where they are given in a text that is null. -/
theorem argumentValue_eq_null_iff :
    function.argumentValue = .null ↔
      ∃ content, function.arguments = some (.text content) ∧ SpellsNull content.toList := by
  constructor
  · intro null
    match given : function.arguments with
    | none => cases (argumentValue_of_absent (.inl given)).symm.trans null
    | some .null => cases (argumentValue_of_absent (.inr given)).symm.trans null
    | some (.text content) =>
      refine ⟨content, rfl, parse_eq_null_iff.mp ?_⟩
      rw [argumentValue, given] at null
      dsimp only at null
      split at null
      · next value read => rw [read, null]
      · contradiction
    | some (.bool _) | some (.int _) | some (.real _) | some (.list _) | some (.object _) =>
      cases (argumentValue_of_value given nofun rfl).symm.trans null
  · rintro ⟨content, given, spells⟩
    exact argumentValue_of_parse given (parse_eq_null_iff.mpr spells)

end ReplyFunction

namespace ReplyCall

variable {call : ReplyCall}

/-- The function of a call has the arguments that the call gives. -/
theorem arguments_getD_function : (call.function.getD {}).arguments = call.arguments? := by
  unfold arguments?
  cases call.function <;> rfl

/-- A call has null for its arguments when it gives them in a text that is null. -/
theorem arguments_toCall_eq_null_iff : call.toCall.arguments = .null ↔ call.GivesNullText := by
  rw [GivesNullText, ← arguments_getD_function]
  exact ReplyFunction.argumentValue_eq_null_iff

/-- A value of its own makes no other difference to a call than that of its arguments. -/
theorem toCall_eq_toCall_withArguments_iff {value : Value} :
    call.toCall = (call.withArguments value).toCall ↔
      call.toCall.arguments = (call.withArguments value).toCall.arguments := by
  constructor
  · exact congrArg _
  · intro same
    have rebuilt : call.toCall =
        { (call.withArguments value).toCall with arguments := call.toCall.arguments } := rfl
    rw [rebuilt, same]

end ReplyCall

/-- The tool calls of an output are those that the calls of the reply stand for. -/
theorem Reply.toolCalls_toOutput (asked : String) (reply : Reply) :
    (reply.toOutput asked).toolCalls = reply.toolCalls.map ReplyCall.toCall := by
  rw [Output.toolCalls, Reply.toolCalls, List.map_flatMap]
  exact List.flatMap_map ..

/-- The arguments of the tool calls in a reply are kept exactly when none of them is a text that is
null. -/
theorem Reply.keepsArguments_iff (asked : String) (reply : Reply) :
    reply.KeepsArguments asked ↔ ∀ call ∈ reply.toolCalls, ¬call.GivesNullText := by
  constructor
  · intro keeps call among null
    refine keeps.proper call.toCall ?_ (ReplyCall.arguments_toCall_eq_null_iff.mpr null)
    rw [toolCalls_toOutput]
    exact List.mem_map_of_mem among
  · intro proper
    constructor
    case inline =>
      intro call among content value given read inline
      rw [ReplyCall.toCall_eq_toCall_withArguments_iff]
      rw [← ReplyCall.arguments_getD_function] at given
      have own : call.toCall.arguments = value :=
        ReplyFunction.argumentValue_of_parse given read
      have notNull : value ≠ .null := fun null =>
        proper call among (ReplyCall.arguments_toCall_eq_null_iff.mp (own.trans null))
      have other : (call.withArguments value).toCall.arguments = value :=
        ReplyFunction.argumentValue_of_value rfl notNull inline
      rw [own, other]
    case absent =>
      intro call _ absent
      rw [← ReplyCall.arguments_getD_function] at absent
      exact ReplyFunction.argumentValue_of_absent absent
    case proper =>
      intro call among null
      rw [toolCalls_toOutput] at among
      obtain ⟨given, there, rfl⟩ := List.mem_map.mp among
      exact proper given there (ReplyCall.arguments_toCall_eq_null_iff.mp null)

/-- A reply with one tool call, which has a text for its arguments. -/
def oneCall (arguments : String) : Reply where
  id := none
  model := none
  choices := [⟨none, ⟨none, some "", some [⟨some "c", some ⟨some "f", some (.text arguments)⟩,
    none⟩]⟩, some "tool_calls"⟩]
  usage := none

/-- A text that holds an object is no null, whatever nulls are in the object. -/
theorem Reply.keepsArguments_oneCall : (oneCall " \x7b\"null\": null\x7d").KeepsArguments "m" := by
  refine (Reply.keepsArguments_iff "m" (oneCall " \x7b\"null\": null\x7d")).mpr ?_
  rintro call among ⟨content, given, spells⟩
  obtain rfl := List.mem_singleton.mp among
  obtain rfl : " \x7b\"null\": null\x7d" = content := by
    simpa [ReplyCall.arguments?] using given
  have read : parse " \x7b\"null\": null\x7d" = .ok (.object [("null", .null)]) := rfl
  exact nomatch read.symm.trans (parse_eq_null_iff.mpr spells)

/-- The word for null in a text is not an empty object, as null itself would be. -/
theorem Reply.not_keepsArguments_null :
    ¬∀ (asked : String) (reply : Reply), reply.KeepsArguments asked := by
  intro keeps
  have among : ⟨"c", "f", .null, "function"⟩ ∈ ((oneCall "null").toOutput "m").toolCalls :=
    List.mem_singleton.mpr rfl
  exact (keeps "m" (oneCall "null")).proper _ among rfl

end Endpoint

end Assay
