import Assay.Proofs.Assignments
import Assay.Proofs.Request

/-!
# From a text of parameters to a request

Sampling parameters come in one text and go out as members of a request. Two texts with a comma
between them are the parameters of the second over those of the first (`Sampling.ofText_merge`), as
those of a call go over those of a model. A request conveys a text when it holds under the name of
each parameter what the text sets last, and never null. Every accepted text is conveyed but for one
kind: JSON has no number for a float that is not finite, so a text that names one is accepted and
then sent as null (`Sampling.request_conveys_iff`).
-/
namespace Assay

open Json

namespace Sampling

/-- A parameter of a call. -/
inductive Parameter where
  | temperature
  | maxTokens
  | topP
  | topK
  | stop
  | seed
deriving DecidableEq

namespace Parameter

/-- The keys that assign to a parameter. -/
def keys : Parameter → List String
  | .temperature => ["temperature"]
  | .maxTokens => ["max_tokens"]
  | .topP => ["top_p"]
  | .topK => ["top_k"]
  | .stop => ["stop", "stop_seqs"]
  | .seed => ["seed"]

/-- The name of a parameter in a request. -/
def name : Parameter → String
  | .temperature => "temperature"
  | .maxTokens => "max_tokens"
  | .topP => "top_p"
  | .topK => "top_k"
  | .stop => "stop"
  | .seed => "seed"

/-- The value that an assigned text is for a parameter: a float, a natural of 32 or 64 bits, or the
texts between bars. -/
def read? : Parameter → List Char → Option Value
  | .temperature, text => (Number.float? text).map .real
  | .maxTokens, text => (word32? text).map fun n => .int n.toNat
  | .topP, text => (Number.float? text).map .real
  | .topK, text => (word32? text).map fun n => .int n.toNat
  | .stop, text => some (.texts (stopTexts text))
  | .seed, text => (word64? text).map fun n => .int n.toNat

/-- What is set of a parameter, with a way to write floats. -/
def held? (write : Float → Value) : Parameter → Sampling → Option Value
  | .temperature, sampling => sampling.temperature.map write
  | .maxTokens, sampling => sampling.maxTokens.map fun n => .int n.toNat
  | .topP, sampling => sampling.topP.map write
  | .topK, sampling => sampling.topK.map fun n => .int n.toNat
  | .stop, sampling => sampling.stop.map .texts
  | .seed, sampling => sampling.seed.map fun n => .int n.toNat

end Parameter

/-! ## Two texts -/

/-- Parameters that assignments have set go over those set before. -/
theorem layered_merge : Assignment.Layered set {} fun _ => merge where
  layer_fresh _ := rfl
  layer_layer _ _ base middle top := by
    simp only [merge, Option.or_assoc]
  set_eq sampling key value := by
    unfold set
    split
    case h_1 => cases valueOf Number.float? key value <;> rfl
    case h_2 => cases valueOf word32? key value <;> rfl
    case h_3 => cases valueOf Number.float? key value <;> rfl
    case h_4 => cases valueOf word32? key value <;> rfl
    case h_5 => cases valueOf word64? key value <;> rfl
    case h_6 => rfl
    case h_7 => rfl
    case h_8 => rfl

/-- Two texts with a comma between them are the parameters of the second over those of the first.
They are refused as the first text is, and if it is not, as the second is. -/
theorem ofText_merge (first second : String) :
    ofText (first ++ "," ++ second) =
      (do
        let base ← ofText first
        let call ← ofText second
        .ok (base.merge call)) :=
  Assignment.applyAll_comma layered_merge first second

/-! ## What a text sets -/

variable {sampling result : Sampling} {key value : List Char}

/-- A setting that is made of a value comes to something where the value can be read. -/
theorem exists_of_valueOf {α : Type} {read? : List Char → Option α} {make : α → Sampling}
    (made : (do .ok (make (← valueOf read? key value))) = Except.ok (ε := Error) result) :
    ∃ found, read? value = some found ∧ make found = result := by
  obtain ⟨found, read, same⟩ := exists_of_bind_eq_ok made
  exact ⟨found, read_of_valueOf read, Except.ok.inj same⟩

/-- A key that is accepted is that of a parameter: its value is read for that parameter, which it
sets, and every other parameter stays what it was. -/
theorem exists_parameter_of_set (accepted : set sampling key value = .ok result) :
    ∃ parameter : Parameter, ∃ found, String.ofList key ∈ parameter.keys ∧
      parameter.read? value = some found ∧ parameter.held? .real result = some found ∧
      ∀ other ≠ parameter, other.held? .real result = other.held? .real sampling := by
  unfold set at accepted
  split at accepted
  case' h_1 here =>
    obtain ⟨x, read, rfl⟩ := exists_of_valueOf accepted
    refine ⟨.temperature, .real x, List.mem_singleton.mpr here, ?_, rfl, ?_⟩
    · rw [Parameter.read?, read, Option.map_some]
  case' h_2 here =>
    obtain ⟨n, read, rfl⟩ := exists_of_valueOf accepted
    refine ⟨.maxTokens, .int n.toNat, List.mem_singleton.mpr here, ?_, rfl, ?_⟩
    · rw [Parameter.read?, read, Option.map_some]
  case' h_3 here =>
    obtain ⟨x, read, rfl⟩ := exists_of_valueOf accepted
    refine ⟨.topP, .real x, List.mem_singleton.mpr here, ?_, rfl, ?_⟩
    · rw [Parameter.read?, read, Option.map_some]
  case' h_4 here =>
    obtain ⟨n, read, rfl⟩ := exists_of_valueOf accepted
    refine ⟨.topK, .int n.toNat, List.mem_singleton.mpr here, ?_, rfl, ?_⟩
    · rw [Parameter.read?, read, Option.map_some]
  case' h_5 here =>
    obtain ⟨n, read, rfl⟩ := exists_of_valueOf accepted
    refine ⟨.seed, .int n.toNat, List.mem_singleton.mpr here, ?_, rfl, ?_⟩
    · rw [Parameter.read?, read, Option.map_some]
  case' h_6 here =>
    cases accepted
    refine ⟨.stop, _, List.mem_pair.mpr (.inl here), rfl, rfl, ?_⟩
  case' h_7 here =>
    cases accepted
    refine ⟨.stop, _, List.mem_pair.mpr (.inr here), rfl, rfl, ?_⟩
  case h_8 => contradiction
  -- What is left of each key is that the other parameters are not touched.
  all_goals
    rintro (_ | _ | _ | _ | _ | _) differs <;> first | rfl | contradiction

/-- A key is that of one parameter only. -/
theorem Parameter.eq_of_mem_keys {first second : Parameter} {key : String}
    (inFirst : key ∈ first.keys) (inSecond : key ∈ second.keys) : first = second := by
  have apart : ∀ first second : Parameter, first ≠ second →
      ∀ key ∈ first.keys, key ∉ second.keys := by
    rintro (_ | _ | _ | _ | _ | _) (_ | _ | _ | _ | _ | _) <;> decide
  by_contra differs
  exact apart first second differs key inFirst inSecond

/-- A parameter is governed by the assignments to its keys. -/
theorem governs (parameter : Parameter) :
    Assignment.Governs set parameter.keys parameter.read? (parameter.held? .real) where
  reads accepted named := by
    obtain ⟨own, found, inOwn, read, held, -⟩ := exists_parameter_of_set accepted
    obtain rfl := Parameter.eq_of_mem_keys inOwn named
    exact ⟨found, read, held⟩
  keeps accepted unnamed := by
    obtain ⟨own, -, inOwn, -, -, others⟩ := exists_parameter_of_set accepted
    refine others parameter fun same => unnamed ?_
    rw [same]
    exact inOwn

/-! ## What a request conveys -/

/-- A request conveys the parameters of a text: it holds the value that the text sets last under
the name of each parameter, nothing under the name of one that the text does not set, and null under
none of these names. -/
structure Conveys (text : String) (request : Members) : Prop where
  set : ∀ parameter : Parameter, ∀ written ∈ Assignment.last? parameter.keys text,
    ∃ value, parameter.read? written = some value ∧ request.get? parameter.name = some value
  unset : ∀ parameter : Parameter, Assignment.last? parameter.keys text = none →
    request.get? parameter.name = none
  proper : ∀ parameter : Parameter, request.get? parameter.name ≠ some .null

/-- Where its floats are numbers, a parameter is written as the number that it is. -/
theorem Finite.held?_float (finite : sampling.Finite) (parameter : Parameter) :
    parameter.held? Value.float sampling = parameter.held? .real sampling := by
  cases parameter with
  | temperature => exact map_float finite.temperature
  | topP => exact map_float finite.topP
  | _ => rfl

/-- Floats among parameters are numbers if none of them is written as null. -/
theorem finite_of_held?_float
    (proper : ∀ parameter : Parameter, parameter.held? Value.float sampling ≠ some .null) :
    sampling.Finite := by
  have finite : ∀ value? : Option Float, value?.map Value.float ≠ some .null →
      ∀ x ∈ value?, x.isFinite = true := by
    intro value? notNull x member
    cases member
    by_contra infinite
    exact notNull (congrArg some (if_neg infinite))
  exact ⟨finite _ (proper .temperature), finite _ (proper .topP)⟩

/-- Parameters that are held are not null. -/
theorem held?_real_ne_null (parameter : Parameter) (sampling : Sampling) :
    parameter.held? .real sampling ≠ some .null := by
  intro null
  cases parameter <;> obtain ⟨_, -, same⟩ := Option.map_eq_some_iff.mp null <;> contradiction

/-- What is sent for a question without further members. -/
def sent (model : String) (question : Question) : Members :=
  Members.insertAll [] (Members.present (Endpoint.Chat.requestFields model question) ++ [])

/-- A request holds each parameter under its name, with null for a float that is not a number. -/
theorem get?_sent (model : String) (question : Question) (parameter : Parameter) :
    (sent model question).get? parameter.name =
      parameter.held? Value.float question.sampling := by
  have nothing : ∀ name, Members.last? name (Members.present []) = none := fun _ => rfl
  rw [sent, Members.get?_insertAll, List.append_nil]
  cases parameter <;>
    simp [Endpoint.Chat.requestFields, fields, Members.last?_present_cons, nothing,
      Parameter.name, Members.get?, Parameter.held?, Value.nat]

/-- The request for a question with the parameters of an accepted text conveys the text exactly when
the floats among the parameters are numbers. -/
theorem request_conveys_iff {text : String} {question : Question}
    (accepted : ofText text = .ok question.sampling) (model : String) :
    ∃ members : Members, Endpoint.Chat.request model [] question = .object members ∧
      (Conveys text members ↔ question.sampling.Finite) := by
  refine ⟨sent model question, rfl, ?_⟩
  constructor
  · intro conveys
    refine finite_of_held?_float fun parameter null => conveys.proper parameter ?_
    rw [get?_sent, null]
  · intro finite
    have held : ∀ parameter : Parameter, (sent model question).get? parameter.name =
        parameter.held? .real question.sampling := by
      intro parameter
      rw [get?_sent, finite.held?_float]
    constructor
    case set =>
      intro parameter written last
      obtain ⟨value, read, same⟩ := ((governs parameter).last accepted).1 written last
      exact ⟨value, read, (held parameter).trans same⟩
    case unset =>
      intro parameter never
      have fresh : parameter.held? .real ({} : Sampling) = none := by
        cases parameter <;> rfl
      rw [held, ((governs parameter).last accepted).2 never, fresh]
    case proper =>
      intro parameter
      rw [held]
      exact held?_real_ne_null parameter question.sampling

/-- A question with the given parameters and nothing else. -/
def bareQuestion (sampling : Sampling) : Question := ⟨[], [], none, sampling⟩

/-- Parameters of which one is a list of no texts. -/
def unstopped : Sampling := { temperature := some 0.5, stop := some [] }

/-- Of two temperatures the last one is sent, a list of no texts is sent as such, and what is not
set is not there. -/
theorem request_conveys_iff_unstopped :
    ofText "temperature=9, stop_seqs=|,,temperature = +5e-1" = .ok unstopped ∧
      ∃ members : Members,
        Endpoint.Chat.request "m" [] (bareQuestion unstopped) = .object members ∧
        Conveys "temperature=9, stop_seqs=|,,temperature = +5e-1" members ∧
        members.get? "temperature" = some (.real 0.5) ∧ members.get? "stop" = some (.list []) ∧
        members.get? "seed" = none := by
  have accepted : ofText "temperature=9, stop_seqs=|,,temperature = +5e-1" =
      .ok (bareQuestion unstopped).sampling := rfl
  have finite : unstopped.Finite := by
    constructor <;> decide
  obtain ⟨members, request, conveys⟩ := request_conveys_iff accepted "m"
  refine ⟨accepted, members, request, conveys.mpr finite, ?_⟩
  cases request
  exact ⟨rfl, rfl, rfl⟩

/-- An infinite temperature is accepted and sent as null. -/
theorem request_loses_infinity :
    ¬∀ (text model : String) (question : Question) (members : Members),
      ofText text = .ok question.sampling →
      Endpoint.Chat.request model [] question = .object members → Conveys text members := by
  intro conveys
  have lost := conveys "temperature=inf" "m" (bareQuestion { temperature := some Number.infinity })
    _ rfl rfl
  exact lost.proper .temperature rfl

end Sampling
end Assay
