import Assay.Command.Results
import Assay.Proofs.OneLine
import Assay.Proofs.RoundTrip
import Mathlib.Data.List.Forall2
import Mathlib.Tactic.IntervalCases

/-!
# The log of samples

The entries of a report are kept as a text with one entry on each line. A line is the JSON of its
entry, which is written without line feeds of its own, so the text has one line for each entry and
can be taken apart in no other way; and an entry as a run leaves it is decoded from its line with
everything that it holds, and without what is absent from it (`logText_lines`).

Of the numbers in an entry, the place has to fit in a word, and the credit is zero or one: these two
floats are written as `0.0` and `1.0`, and both texts are read without an error of rounding.
-/
namespace Assay

open Json

namespace Json

/-! ## Credits -/

/-- A digit in front of a point is the whole part of a number. -/
theorem readNumber_digit (negative : Bool) {n : Nat} (small : n < 10) (rest : List Char) :
    readNumber negative (Nat.digitChar n :: '.' :: rest) =
      readAfterWhole negative n 0 ('.' :: rest) := by
  interval_cases n <;> rfl

/-- Whole digits that go on with a point and a zero are read as ten times as many tenths. -/
theorem readAfterWhole_pointZero (negative : Bool) {digits : Nat}
    (fits : 10 * digits < Number.word64Bound) {rest : List Char} (ends : EndsNumber rest) :
    readAfterWhole negative digits 0 ('.' :: '0' :: rest) =
      realOf negative (10 * digits) (-1) rest := by
  have absorbed : absorb digits ['0'] = (10 * digits, []) := absorb_of_fits fits
  obtain ⟨whole, after⟩ := span_toDigits (n := 0) ends
  change ('0' :: rest).takeWhile Number.isDigit = ['0'] at whole
  change ('0' :: rest).dropWhile Number.isDigit = rest at after
  unfold readAfterWhole
  simp only [whole, after, absorbed]
  rw [if_neg (by decide)]
  split
  · exact absurd rfl (ends _ rfl).2.2.1
  · exact absurd rfl (ends _ rfl).2.2.2
  · rfl

/-- A float that is written as a digit, a point and a zero is read back, if a tenth of ten times the
digit is the float. -/
theorem recovers_tenths (depth : Nat) {n : Nat} (small : n < 10) {x : Float}
    (written : writeReal x = [Nat.digitChar n, '.', '0'])
    (scaled : scale (UInt64.ofNat (10 * n)).toFloat 8 (-1) = some x) :
    Recovers depth (.real x) := by
  intro rest ends
  have digit : ∀ n < 10, Number.isDigit (Nat.digitChar n) = true := by decide
  have fits : 10 * n < Number.word64Bound := Nat.lt_trans (by omega) (by decide : 100 < _)
  have number : readNumber false (Nat.digitChar n :: '.' :: '0' :: rest) =
      .ok (.real x, rest) := by
    rw [readNumber_digit false small, readAfterWhole_pointZero false fits ends, realOf, scaled]
    rfl
  have front := skip_cons (isSpace_of_isDigit (digit n small)) ('.' :: '0' :: rest)
  rw [writeValue, written]
  exact (readValue_of_digit front (digit n small)).trans number

/-- A float that is zero or one is read back. -/
theorem recovers_credit (depth : Nat) {credit : Float} (binary : credit = 0 ∨ credit = 1) :
    Recovers depth (.real credit) := by
  rcases binary with rfl | rfl
  · exact recovers_tenths depth (n := 0) (by decide) (by decide) (by decide)
  · exact recovers_tenths depth (n := 1) (by decide) (by decide) (by decide)

end Json

/-! ## Entries -/

namespace LogEntry

/-- An entry as a run leaves it: its place fits in a word, and its credit is nothing or all. -/
structure IsLogged (entry : LogEntry) : Prop where
  place : entry.place < Number.word64Bound
  credit : entry.credit = 0 ∨ entry.credit = 1

/-- Members of an object tell an entry when it is decoded from them and what is absent from the
entry is absent from them. -/
structure ToldBy (entry : LogEntry) (members : Members) : Prop where
  decoded : ofJson (.object members) = .ok entry
  id : members.get? "id" = none ↔ entry.id = none
  explanation : members.get? "explanation" = none ↔ entry.explanation = none
  error : members.get? "error" = none ↔ entry.error = none

/-- A line holds an entry when it is the JSON of an object that tells the entry. -/
def HeldBy (entry : LogEntry) (line : String) : Prop :=
  ∃ members, parse line = .ok (.object members) ∧ entry.ToldBy members

variable {entry : LogEntry}

/-- A field of an entry is found under its name in the JSON of the entry. -/
theorem get?_toJson {name : String} {value? : Option Value}
    (among : (name, value?) ∈ entry.fields) :
    Members.get? name entry.toJson.members = value? := by
  have once : (entry.fields.map Prod.fst).Nodup := by
    change List.Nodup ["doc_id", "id", "input", "target", "completion", "score", "explanation",
      "error"]
    decide
  change ((Members.insertAll [] (Members.present entry.fields)).get? name) = value?
  rw [Members.get?_insertAll, Members.last?_present_of_mem once among]
  exact Option.or_none

/-- The credit of an entry as a run leaves it is a number in JSON. -/
theorem IsLogged.float_credit (logged : entry.IsLogged) :
    Value.float entry.credit = .real entry.credit := by
  rcases logged.credit with none | all
  · rw [none]
    exact if_pos (by decide)
  · rw [all]
    exact if_pos (by decide)

/-- An entry as a run leaves it is decoded from its JSON. -/
theorem IsLogged.decoded (logged : entry.IsLogged) : ofJson entry.toJson = .ok entry := by
  let members := entry.toJson.members
  have shape : entry.toJson = .object members := rfl
  have credit : Decode.float (.float entry.credit) = .ok entry.credit := by
    rw [logged.float_credit]
    rfl
  have readPlace : members.field? "doc_id" (Decode.below Number.word64Bound "usize") =
      .ok (some entry.place) :=
    Members.field?_of_get? (get?_toJson (by simp [fields])) (Decode.below_nat logged.place _)
  have readInput : members.field? "input" Decode.text = .ok (some entry.input) :=
    Decode.text_inverts.field (get?_toJson (by simp [fields]))
  have readTarget : members.field? "target" (Decode.list Decode.text) = .ok (some entry.target) :=
    Decode.texts_inverts.field (get?_toJson (by simp [fields]))
  have readCompletion : members.field? "completion" Decode.text = .ok (some entry.completion) :=
    Decode.text_inverts.field (get?_toJson (by simp [fields]))
  have readCredit : members.field? "score" Decode.float = .ok (some entry.credit) :=
    Members.field?_of_get? (get?_toJson (by simp [fields])) credit
  have optional (name : String) (content? : Option String)
      (among : (name, content?.map Value.text) ∈ entry.fields) :
      ∃ read?, members.field? name (Decode.nullable Decode.text) = .ok read? ∧
        read?.join = content? :=
    Decode.text_inverts.nullableField text_ne_null (get?_toJson among)
  obtain ⟨id?, readId, sameId⟩ := optional "id" entry.id (by simp [fields])
  obtain ⟨explanation?, readExplanation, sameExplanation⟩ :=
    optional "explanation" entry.explanation (by simp [fields])
  obtain ⟨error?, readError, sameError⟩ := optional "error" entry.error (by simp [fields])
  have whole : ofJson entry.toJson = .ok ⟨entry.place, id?.join, entry.input, entry.target,
      entry.completion, entry.credit, explanation?.join, error?.join⟩ := by
    rw [shape, ofJson, Decode.record, readPlace, readId, readInput, readTarget, readCompletion,
      readCredit, readExplanation, readError]
    rfl
  rw [whole, sameId, sameExplanation, sameError]

/-- The values of the fields of an entry are read back from what is written of them. -/
theorem IsLogged.recovers (logged : entry.IsLogged) (depth : Nat) :
    ∀ member ∈ Members.present entry.fields, Recovers (depth + 1) member.2 := by
  have text (content : String) : ∀ value ∈ some (Value.text content),
      Recovers (depth + 1) value := by
    rintro _ ⟨⟩
    exact recovers_text _ content
  have optional (content? : Option String) : ∀ value ∈ content?.map Value.text,
      Recovers (depth + 1) value := by
    intro value held
    obtain ⟨content, -, rfl⟩ := Option.map_eq_some_iff.mp held
    exact recovers_text _ content
  have place : ∀ value ∈ some (Value.nat entry.place), Recovers (depth + 1) value := by
    rintro _ ⟨⟩
    have fits : (entry.place : Int) < Number.word64Bound := Int.ofNat_lt.mpr logged.place
    exact recovers_int _ (by omega) fits
  have target : ∀ value ∈ some (Value.texts entry.target), Recovers (depth + 1) value := by
    rintro _ ⟨⟩
    refine recovers_list fun value among => ?_
    obtain ⟨content, -, rfl⟩ := List.mem_map.mp among
    exact recovers_text _ content
  have credit : ∀ value ∈ some (Value.float entry.credit), Recovers (depth + 1) value := by
    rintro _ ⟨⟩
    rw [logged.float_credit]
    exact recovers_credit _ logged.credit
  refine Members.forall_mem_present ?_
  simp only [fields, List.forall_mem_cons]
  exact ⟨place, optional _, text _, target, text _, credit, optional _, optional _, nofun⟩

/-- The object of an entry tells it. -/
theorem IsLogged.toldBy (logged : entry.IsLogged) : entry.ToldBy entry.toJson.members := by
  have absent {name : String} {content? : Option String}
      (among : (name, content?.map Value.text) ∈ entry.fields) :
      Members.get? name entry.toJson.members = none ↔ content? = none := by
    rw [get?_toJson among]
    exact Option.map_eq_none_iff
  exact ⟨logged.decoded, absent (by simp [fields]), absent (by simp [fields]),
    absent (by simp [fields])⟩

end LogEntry

namespace Task

/-- The entries of a report are as a run leaves them, if 64 bits are enough to count them. -/
theorem isLogged_of_mem_report (task : Task) {logging : Bool} {samples : List Sample}
    {attempts : List (Attempt × Score)} (few : attempts.length ≤ Number.word64Bound)
    {entry : LogEntry} (among : entry ∈ (task.report logging samples attempts).entries) :
    entry.IsLogged := by
  cases logging with
  | false => contradiction
  | true =>
    obtain ⟨place, inside, rfl⟩ := List.mem_mapIdx.mp among
    refine ⟨Nat.lt_of_lt_of_le inside few, ?_⟩
    change attempts[place].2.verdict.credit = 0 ∨ attempts[place].2.verdict.credit = 1
    cases attempts[place].2.verdict with
    | correct => exact .inr rfl
    | incorrect => exact .inl rfl

end Task

/-! ## The log -/

namespace Command

/-- The line of an entry is its JSON. -/
theorem parse_logLine {entry : LogEntry} (logged : entry.IsLogged) :
    parse (logLine entry) = .ok entry.toJson := by
  have read := readValue_object (logged.recovers 125) []
  rw [List.append_nil] at read
  rw [parse_eq_ok_iff, logLine, compact, String.toList_ofList]
  exact ⟨[], read, List.forall_mem_nil _⟩

/-- The line of an entry has no line feed. -/
theorem lineFeed_notMem_logLine (entry : LogEntry) : '\n' ∉ (logLine entry).toList := by
  rw [logLine, compact, String.toList_ofList]
  exact (oneLine_writeValue _).notMem

example : logLine ⟨0, none, "Who?", ["Trump"], "A\nB", 1, none, some "x"⟩ =
    "\x7b\"doc_id\":0,\"input\":\"Who?\",\"target\":[\"Trump\"],\"completion\":\"A\\nB\"," ++
      "\"score\":1.0,\"error\":\"x\"\x7d" := by
  decide

/-- The log of entries has one line for each of them, in their order, and no other lines: it cannot
be taken apart at its line feeds in another way. What a line says as JSON is the entry at its place,
whatever characters there are in the texts of the entry; an id, an explanation or an error that the
entry does not have is not there. -/
theorem logText_lines {entries : List LogEntry} (logged : ∀ entry ∈ entries, entry.IsLogged) :
    ∃ lines, (∀ others, Text.HasLines (logText entries) others ↔ others = lines) ∧
      List.Forall₂ LogEntry.HeldBy entries lines := by
  have has : Text.HasLines (logText entries) (entries.map logLine) := by
    constructor
    · rw [logText, List.map_map]
      rfl
    · intro line among
      obtain ⟨entry, -, rfl⟩ := List.mem_map.mp among
      exact lineFeed_notMem_logLine entry
  refine ⟨entries.map logLine, fun others => ⟨has.unique, fun same => same ▸ has⟩, ?_⟩
  rw [List.forall₂_map_right_iff, List.forall₂_same]
  intro entry among
  exact ⟨_, parse_logLine (logged entry among), (logged entry among).toldBy⟩

/-- An attempt at a sample whose texts hold line feeds, quotes and other characters that are
escaped, and one at a sample without all that may be absent. -/
def awkwardAttempts : List (Attempt × Score) :=
  let first : Sample :=
    ⟨some "\n\"1\"", "First\r\nor\u2028second?", ["\\n", "\t\x00\x7f"], []⟩
  let output : Output := .ofText "model" "one\n\ntwo\n" .stop (some "HTTP error 400: \n")
  [({ Attempt.start first "model" with output },
      ⟨.incorrect, some "one", some "Not \x1b'\u03c3'.\n"⟩),
    (.start ⟨none, "", [], []⟩ "model", ⟨.correct, some "", none⟩)]

/-- The report on these attempts. -/
def awkwardReport : Report :=
  Task.report ⟨"awkward", [], [], .answerList⟩ true (awkwardAttempts.map (·.1.sample))
    awkwardAttempts

/-- The log of these attempts has two lines, each with what has come of one of them. -/
theorem logText_lines_awkward :
    (∀ entry ∈ awkwardReport.entries, entry.IsLogged) ∧
      ∃ first second, (∀ others, Text.HasLines (logText awkwardReport.entries) others ↔
          others = [first, second]) ∧
        List.Forall₂ LogEntry.HeldBy awkwardReport.entries [first, second] := by
  have logged : ∀ entry ∈ awkwardReport.entries, entry.IsLogged := fun entry among =>
    Task.isLogged_of_mem_report _ (by decide) among
  obtain ⟨lines, only, held⟩ := logText_lines logged
  have size : lines.length = 2 := held.length_eq.symm
  obtain ⟨first, second, rfl⟩ := List.length_eq_two.mp size
  exact ⟨logged, first, second, only, held⟩

end Command
end Assay
