import Assay.Number.Radix
import Assay.Sample
import Mathlib.Logic.Function.Basic

/-!
# What a fingerprint tells apart

The fingerprint of samples is a digest of the bytes of their texts, one text after the other.
Encoded texts can be read back, so the bytes say what the texts are when they are run together.
They say neither where a text ends nor whether it is a question or a reference answer: samples
whose texts are different cuts of one text have the same bytes, and with them the same
fingerprint. Where the bytes differ, the fingerprints are as different as the digests.
-/
namespace Assay

/-- The encoding of a text can be read back. -/
theorem Text.utf8_injective : Function.Injective Text.utf8 := by
  intro first second same
  have bytes : first.utf8Encode = second.utf8Encode := List.toByteArray_inj.2 same
  have read : some first.toArray = some second.toArray := by
    rw [← List.utf8Decode?_utf8Encode, bytes, List.utf8Decode?_utf8Encode]
  exact List.toArray_inj (Option.some.inj read)

namespace Digest

/-- The two digits of a byte say which byte it is. -/
theorem eq_of_digits {first second : UInt8}
    (high : Nat.digitChar (first.toNat / 16) = Nat.digitChar (second.toNat / 16))
    (low : Nat.digitChar (first.toNat % 16) = Nat.digitChar (second.toNat % 16)) :
    first = second := by
  have firstBound := first.toNat_lt
  have secondBound := second.toNat_lt
  have highs : some (first.toNat / 16) = some (second.toNat / 16) := by
    rw [← Number.hexDigit?_digitChar_lower (by omega), high,
      Number.hexDigit?_digitChar_lower (by omega)]
  have lows : some (first.toNat % 16) = some (second.toNat % 16) := by
    rw [← Number.hexDigit?_digitChar_lower (by omega), low,
      Number.hexDigit?_digitChar_lower (by omega)]
  rw [Option.some.injEq] at highs lows
  exact UInt8.toNat_inj.1 (by omega)

/-- Bytes can be read back from their hexadecimal digits. -/
theorem hex_injective : Function.Injective hex := by
  intro first second same
  induction first generalizing second with
  | nil =>
    cases second with
    | nil => rfl
    | cons byte bytes => simp [hex] at same
  | cons byte bytes ih =>
    cases second with
    | nil => simp [hex] at same
    | cons other others =>
      simp only [hex, List.flatMap_cons, List.cons_append, List.nil_append,
        List.cons.injEq] at same
      obtain ⟨high, low, rest⟩ := same
      rw [eq_of_digits high low, ih rest]

end Digest

namespace Sample

/-- The questions of samples, each with its reference answers. -/
def wordings (samples : List Sample) : List (String × List String) :=
  samples.map fun sample => (sample.input, sample.target)

/-- The bytes that the fingerprint of samples is a digest of. -/
def digested (samples : List Sample) : List UInt8 := samples.flatMap content

/-- The questions and reference answers of samples, run together to one text. -/
def runTogether (samples : List Sample) : List Char :=
  (wordings samples).flatMap fun (input, target) => input.toList ++ target.flatMap String.toList

/-- What is digested is the text that the questions and reference answers make together. -/
theorem digested_eq_utf8 (samples : List Sample) :
    digested samples = Text.utf8 (runTogether samples) := by
  have each : ∀ sample : Sample, sample.content =
      Text.utf8 (sample.input.toList ++ sample.target.flatMap String.toList) := by
    intro sample
    simp only [content, Text.utf8, List.flatMap_append, List.flatMap_assoc]
  simp only [digested, funext each, runTogether, wordings, Text.utf8, List.flatMap_map,
    List.flatMap_assoc]

/-- Samples have different bytes to digest exactly when their questions and reference answers,
run together, are different texts; and their fingerprints are equal exactly when the digests of
these bytes are. -/
theorem digested_ne_iff (first second : List Sample) :
    (digested first ≠ digested second ↔ runTogether first ≠ runTogether second) ∧
      (fingerprint first = fingerprint second ↔
        Digest.sha256 (digested first) = Digest.sha256 (digested second)) := by
  constructor
  · rw [digested_eq_utf8, digested_eq_utf8, Text.utf8_injective.ne_iff]
  · constructor
    · intro same
      exact Digest.hex_injective (String.ofList_inj.1 same)
    · intro same
      exact congrArg (fun bytes => String.ofList (Digest.hex bytes)) same

/-- A question with one reference answer has the same bytes as the question that both make when
they are written as one. -/
theorem digested_eq_of_other_cut :
    ¬∀ first second : List Sample,
      wordings first ≠ wordings second → digested first ≠ digested second := by
  intro separates
  refine separates [{ input := "Who?", target := ["Trump"] }]
    [{ input := "Who?Trump", target := [] }] ?_ ?_
  · decide
  · rw [digested_eq_utf8, digested_eq_utf8]
    rfl

end Sample
end Assay
