import Assay.Text.CaseTable

/-!
# Lower case

`lower` maps each character to its lower-case form. Two characters have a rule of their own: the
capital dotted I becomes two characters, and a capital sigma takes its final form when it ends
a word, that is, when a cased character stands before it and none after it, case-ignorable
characters apart.
-/
namespace Assay.Text

/-- A character with an upper-case, title-case or lower-case form of its own. -/
def isCased (c : Char) : Bool :=
  casedTable.holds c.toNat

/-- A character that the rule for the final sigma looks past. -/
def isCaseIgnorable (c : Char) : Bool :=
  caseIgnorableTable.holds c.toNat

/-- Whether a code point is one of those that the run moves. -/
def CaseRun.covers (run : CaseRun) (n : Nat) : Bool :=
  run.first ≤ n && n ≤ run.last && (n - run.first) % run.step == 0

/-- The lower-case form of a character by itself. -/
def lowerChar (c : Char) : List Char :=
  let n := c.toNat
  if n < 128 then [if 65 ≤ n && n ≤ 90 then Char.ofNat (n + 32) else c]
  else if n = 0x130 then ['i', Char.ofNat 0x307]
  else match caseRuns.find? (·.covers n) with
    | some run => [Char.ofNat (n + run.shift).toNat]
    | none => [c]

/-- Whether the first character that is not case-ignorable is cased. -/
def meetsCased (text : List Char) : Bool :=
  match text.dropWhile isCaseIgnorable with
  | [] => false
  | c :: _ => isCased c

/-- The lower-case form of the rest of a text, given what stands before it, nearest first. -/
def lowerFrom (before : List Char) : List Char → List Char
  | [] => []
  | c :: text =>
    (if c = 'Σ' then [if meetsCased before && !meetsCased text then 'ς' else 'σ']
      else lowerChar c) ++ lowerFrom (c :: before) text

/-- The lower-case form of a text. -/
def lower (text : List Char) : List Char :=
  lowerFrom [] text

end Assay.Text
