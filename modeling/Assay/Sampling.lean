import Assay.Assignment
import Assay.Error

/-!
# Sampling parameters

How a model is asked to generate. Every parameter may be left open; what is left open is not
sent. Parameters given for one call go before those given once for all calls.
-/
namespace Assay

open Json

/-- The parameters of a call. -/
structure Sampling where
  temperature : Option Float := none
  maxTokens : Option UInt32 := none
  topP : Option Float := none
  topK : Option UInt32 := none
  /-- The texts at which generation stops. -/
  stop : Option (List String) := none
  seed : Option UInt64 := none

namespace Sampling

/-- The parameters of a call over those of its model. -/
def merge (base call : Sampling) : Sampling where
  temperature := call.temperature.or base.temperature
  maxTokens := call.maxTokens.or base.maxTokens
  topP := call.topP.or base.topP
  topK := call.topK.or base.topK
  stop := call.stop.or base.stop
  seed := call.seed.or base.seed

/-- The value that a text names, or the error that names its key. -/
def valueOf {α : Type} (read? : List Char → Option α) (key value : List Char) :
    Except Error α :=
  match read? value with
  | some found => .ok found
  | none => .error (.invalidValue (String.ofList key) (String.ofList value))

/-- A value that is not refused is the one that its text names. -/
theorem read_of_valueOf {α : Type} {read? : List Char → Option α} {key value : List Char}
    {found : α} (accepted : valueOf read? key value = .ok found) : read? value = some found := by
  unfold valueOf at accepted
  split at accepted
  · next there => rw [there, Except.ok.inj accepted]
  · contradiction

/-- The 32-bit natural that a text names. -/
def word32? (text : List Char) : Option UInt32 :=
  (Number.natural? Number.word32Bound text).map UInt32.ofNat

/-- The 64-bit natural that a text names. -/
def word64? (text : List Char) : Option UInt64 :=
  (Number.natural? Number.word64Bound text).map UInt64.ofNat

/-- The texts between bars that are not empty. -/
def stopTexts (text : List Char) : List String :=
  ((Text.cut (· = '|') text).filter (· ≠ [])).map String.ofList

/-- Set one parameter. -/
def set (sampling : Sampling) (key value : List Char) : Except Error Sampling :=
  match String.ofList key with
  | "temperature" => do
    .ok { sampling with temperature := some (← valueOf Number.float? key value) }
  | "max_tokens" => do .ok { sampling with maxTokens := some (← valueOf word32? key value) }
  | "top_p" => do .ok { sampling with topP := some (← valueOf Number.float? key value) }
  | "top_k" => do .ok { sampling with topK := some (← valueOf word32? key value) }
  | "seed" => do .ok { sampling with seed := some (← valueOf word64? key value) }
  | "stop" | "stop_seqs" => .ok { sampling with stop := some (stopTexts value) }
  | unknown => .error (.unknownParameter unknown)

/-- Read parameters from assignments. -/
def ofText (text : String) : Except Error Sampling :=
  Assignment.applyAll .malformedParameter set {} text.toList

/-- The fields of parameters as JSON, where `stop` names the field of the stop texts. -/
def fields (sampling : Sampling) (stop : String) : List (String × Option Value) :=
  [("max_tokens", sampling.maxTokens.map fun n => .nat n.toNat),
    ("seed", sampling.seed.map fun n => .nat n.toNat), (stop, sampling.stop.map .texts),
    ("temperature", sampling.temperature.map .float),
    ("top_k", sampling.topK.map fun n => .nat n.toNat), ("top_p", sampling.topP.map .float)]

/-- Parameters as JSON, without those left open. -/
def toJson (sampling : Sampling) : Value := .ofFields (sampling.fields "stop_seqs")

/-- Read parameters. As a list they are all there, though they may be null. -/
def ofJson : Decoder Sampling :=
  Decode.record "struct GenerateConfig" 6 false
    (fun members => do
      let maxTokens ← members.field? "max_tokens" (Decode.nullable Decode.word32)
      let seed ← members.field? "seed" (Decode.nullable Decode.word64)
      let stop ← members.field? "stop_seqs" (Decode.nullable (Decode.list Decode.text))
      let temperature ← members.field? "temperature" (Decode.nullable Decode.float)
      let topK ← members.field? "top_k" (Decode.nullable Decode.word32)
      let topP ← members.field? "top_p" (Decode.nullable Decode.float)
      .ok ⟨temperature.join, maxTokens.join, topP.join, topK.join, stop.join, seed.join⟩)
    (fun row => do
      let temperature ← row.item 0 (Decode.nullable Decode.float)
      let maxTokens ← row.item 1 (Decode.nullable Decode.word32)
      let topP ← row.item 2 (Decode.nullable Decode.float)
      let topK ← row.item 3 (Decode.nullable Decode.word32)
      let stop ← row.item 4 (Decode.nullable (Decode.list Decode.text))
      let seed ← row.item 5 (Decode.nullable Decode.word64)
      .ok ⟨temperature, maxTokens, topP, topK, stop, seed⟩)

end Sampling
end Assay
