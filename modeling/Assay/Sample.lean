import Assay.Digest
import Assay.Json.Decode
import Assay.Text.Utf8

/-!
# Samples

A sample is a question with its reference answers. Its metadata are the members of a JSON
object. The fingerprint of a list of samples is the SHA-256 digest of their questions and
reference answers, in hexadecimal.
-/
namespace Assay

open Json

/-- A question with its reference answers. -/
structure Sample where
  id : Option String := none
  input : String
  target : List String
  metadata : Members := []

namespace Sample

/-- A sample with one more member in its metadata. -/
def withMetadata (sample : Sample) (key : String) (value : Value) : Sample :=
  { sample with metadata := sample.metadata.insert key value }

/-- Whether the metadata say true under a key. -/
def flag (sample : Sample) (key : String) : Bool :=
  match sample.metadata.get? key with
  | some (.bool truth) => truth
  | _ => false

/-- The keys and values of the metadata that are texts. -/
def textMetadata (sample : Sample) : List (String × String) :=
  sample.metadata.filterMap fun (key, value) =>
    match value with
    | .text content => some (key, content)
    | _ => none

/-- A sample as JSON, without an absent id and without metadata when there are none. -/
def toJson (sample : Sample) : Value :=
  .ofFields [("id", sample.id.map .text), ("input", some (.text sample.input)),
    ("metadata", if sample.metadata.isEmpty then none else some (.object sample.metadata)),
    ("target", some (.texts sample.target))]

/-- Read a sample. -/
def ofJson : Decoder Sample :=
  Decode.record "struct Sample" 4 false
    (fun members => do
      let id ← members.field? "id" (Decode.nullable Decode.text)
      let input ← members.field? "input" Decode.text
      let metadata ← members.field? "metadata" Decode.members
      let target ← members.field? "target" (Decode.list Decode.text)
      let input ← Decode.required "input" input
      let target ← Decode.required "target" target
      .ok ⟨id.join, input, target, metadata.getD []⟩)
    (fun row => do
      let id ← row.item 0 (Decode.nullable Decode.text)
      let input ← row.item 1 Decode.text
      let target ← row.item 2 (Decode.list Decode.text)
      let metadata ← row.item? 3 Decode.members
      .ok ⟨id, input, target, metadata.getD []⟩)

/-- The texts of a sample that count for its fingerprint, as bytes. -/
def content (sample : Sample) : List UInt8 :=
  Text.utf8 sample.input.toList ++ sample.target.flatMap fun answer => Text.utf8 answer.toList

/-- The fingerprint of a list of samples. -/
def fingerprint (samples : List Sample) : String :=
  String.ofList (Digest.hex (Digest.sha256 (samples.flatMap content)))

end Sample
end Assay
