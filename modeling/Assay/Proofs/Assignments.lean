import Assay.Assignment
import Assay.Proofs.Cutting
import Assay.Proofs.Steps

/-!
# What assignments set

A text of assignments changes a state part by part, up to the first part that is refused. A key
with an equals sign and a value after it is one assignment, unless there is a comma in the value
(`applyAll_assign`). Two more things are known of what a text comes to from what one assignment
does. The first is about two texts with a comma between them: they set what each of them sets by
itself, the second over the first, and are refused as the first is, or else as the second is
(`applyAll_comma`). The second is about one part of the state: the last assignment to one of its
names decides what it is (`Governs.last`).
-/
namespace Assay.Assignment

open Text

/-- The parts of two texts with a comma between them are those of the one and then of the other. -/
theorem parts_comma (front back : List Char) :
    parts (front ++ ',' :: back) = parts front ++ parts back := by
  rw [parts, cut_append_cons (by decide), List.map_append, List.filter_append]
  rfl

/-- The keys and values of parts, without those that hold no equals sign. -/
def ofParts (parts : List (List Char)) : List (String × List Char) :=
  parts.filterMap fun part => (ofPart? part).map fun (key, value) => (String.ofList key, value)

/-- The assignments in a text. -/
def given (text : String) : List (String × List Char) := ofParts (parts text.toList)

/-- The keys to which a text assigns. -/
def keys (text : String) : List String := (given text).map Prod.fst

/-- The value of the last of some assignments whose key is one of the given names. -/
def lastOf? (names : List String) (assignments : List (String × List Char)) :
    Option (List Char) :=
  (assignments.filter (·.1 ∈ names)).getLast?.map Prod.snd

/-- The value that a text assigns last to one of the given names. -/
def last? (names : List String) (text : String) : Option (List Char) :=
  lastOf? names (given text)

/-- An assignment is the last one to a name only if no later one has one of the names. -/
theorem lastOf?_cons (names : List String) (key : String) (value : List Char)
    (rest : List (String × List Char)) :
    lastOf? names ((key, value) :: rest) =
      (lastOf? names rest).or (if key ∈ names then some value else none) := by
  by_cases named : key ∈ names
  · have kept : ((key, value) :: rest).filter (·.1 ∈ names) =
        [(key, value)] ++ rest.filter (·.1 ∈ names) :=
      List.filter_cons_of_pos (by simpa using named)
    rw [lastOf?, kept, List.getLast?_append, Option.map_or, if_pos named]
    rfl
  · rw [lastOf?, List.filter_cons_of_neg (by simpa using named), if_neg named, Option.or_none]
    rfl

section

variable {σ ε : Type} {malformed : String → ε}
  {set : σ → (key value : List Char) → Except ε σ} {fresh state result : σ}

/-- A part that is an assignment sets its key. -/
theorem apply_of_some {part key value : List Char} (split : ofPart? part = some (key, value)) :
    apply malformed set state part = set state key value := by
  rw [apply, split]

/-- A part that is no assignment is refused. -/
theorem apply_of_none {part : List Char} (unsplit : ofPart? part = none) :
    apply malformed set state part = .error (malformed (String.ofList part)) := by
  rw [apply, unsplit]

/-- The first of some parts that is an assignment is the first assignment. -/
theorem ofParts_cons_of_some {part key value : List Char} (parts : List (List Char))
    (split : ofPart? part = some (key, value)) :
    ofParts (part :: parts) = (String.ofList key, value) :: ofParts parts :=
  List.filterMap_cons_some (by rw [split]; rfl)

/-! ## One assignment -/

/-- A text that can be assigned to: it is not empty, has no blanks at its ends, and holds neither a
comma nor an equals sign. -/
structure IsKey (key : List Char) : Prop where
  some : key ≠ []
  trimmed : trim key = key
  noComma : ',' ∉ key
  noEquals : '=' ∉ key

/-- An assignment without a comma is one part. -/
theorem parts_assign {key value : List Char} (isKey : IsKey key) (whole : ',' ∉ value) :
    parts (key ++ '=' :: value) = [key ++ '=' :: value.rdropWhile isBlank] := by
  have uncut : ∀ c ∈ key ++ '=' :: value, decide (c = ',') = false := by
    have noComma : ',' ∉ key ++ '=' :: value := by
      simp [isKey.noComma, whole]
    exact fun c member => decide_eq_false fun comma => noComma (comma ▸ member)
  have front : key.dropWhile isBlank = key := (trim_eq_self_iff.mp isKey.trimmed).1
  have one : trim (key ++ '=' :: value) = key ++ '=' :: value.rdropWhile isBlank := by
    rw [trim_append_solid (by decide), front]
  rw [parts, cut_of_whole uncut, List.map_singleton, one]
  exact List.filter_cons_of_pos (by simp)

/-- An assignment without a comma sets its key to the value without the blanks at its ends. -/
theorem applyAll_assign {key value : List Char} (isKey : IsKey key) (whole : ',' ∉ value) :
    applyAll malformed set fresh (key ++ '=' :: value) = set fresh key (trim value) := by
  have split : ofPart? (key ++ '=' :: value.rdropWhile isBlank) = some (key, trim value) := by
    rw [ofPart?, cutFirst_append_cons isKey.noEquals]
    simp only [Option.map_some, isKey.trimmed, trim_rdropWhile]
  rw [applyAll, parts_assign isKey whole, List.foldlM_cons, apply_of_some split]
  exact bind_pure _

/-! ## Two texts -/

/-- What assignments to some keys have set can be put over what was set before: over a state it
leaves as it is if nothing was set, in two steps as in one, and an assignment to any state sets what
it sets by itself, put over the state. -/
structure Layered (set : σ → (key value : List Char) → Except ε σ) (fresh : σ)
    (layer : List String → σ → σ → σ) : Prop where
  layer_fresh : ∀ state, layer [] state fresh = state
  layer_layer : ∀ first second base middle top,
    layer second (layer first base middle) top =
      layer (first ++ second) base (layer second middle top)
  set_eq : ∀ state key value,
    set state key value = (set fresh key value).map (layer [String.ofList key] state)

/-- Assignments to any state set what they set by themselves, put over the state. -/
theorem Layered.foldlM_apply {layer : List String → σ → σ → σ} (layered : Layered set fresh layer)
    (parts : List (List Char)) (state : σ) :
    parts.foldlM (apply malformed set) state =
      (parts.foldlM (apply malformed set) fresh).map
        (layer ((ofParts parts).map Prod.fst) state) := by
  induction parts generalizing state with
  | nil => exact congrArg Except.ok (layered.layer_fresh state).symm
  | cons part parts ih =>
    rw [List.foldlM_cons, List.foldlM_cons]
    cases split : ofPart? part with
    | none =>
      rw [apply_of_none split, apply_of_none split]
      rfl
    | some assignment =>
      obtain ⟨key, value⟩ := assignment
      rw [apply_of_some split, apply_of_some split, layered.set_eq state,
        ofParts_cons_of_some parts split]
      cases set fresh key value with
      | error error => rfl
      | ok first =>
        have fromState := ih (layer [String.ofList key] state first)
        have fromFirst := ih first
        change parts.foldlM (apply malformed set) (layer [String.ofList key] state first) =
          (parts.foldlM (apply malformed set) first).map _
        rw [fromState, fromFirst]
        cases parts.foldlM (apply malformed set) fresh with
        | error error => rfl
        | ok later => exact congrArg Except.ok (layered.layer_layer _ _ _ _ _)

/-- Two texts with a comma between them set what the first sets, and over it what the second sets;
they are refused as the first is, and if it is not, as the second is. -/
theorem applyAll_comma {layer : List String → σ → σ → σ} (layered : Layered set fresh layer)
    (first second : String) :
    applyAll malformed set fresh (first ++ "," ++ second).toList =
      (do
        let before ← applyAll malformed set fresh first.toList
        let after ← applyAll malformed set fresh second.toList
        .ok (layer (keys second) before after)) := by
  have joined : (first ++ "," ++ second).toList = first.toList ++ ',' :: second.toList := by
    simp
  rw [applyAll, joined, parts_comma, List.foldlM_append]
  refine bind_congr fun before => ?_
  rw [layered.foldlM_apply (parts second.toList) before, applyAll]
  cases (parts second.toList).foldlM (apply malformed set) fresh <;> rfl

/-! ## The last assignment -/

/-- Assignments to some names govern a part of the state: each of them makes it what its value is
read as, and no other assignment changes it. -/
structure Governs {ω : Type} (set : σ → (key value : List Char) → Except ε σ)
    (names : List String) (read? : List Char → Option ω) (view : σ → Option ω) : Prop where
  reads : ∀ {state result key value}, set state key value = .ok result →
    String.ofList key ∈ names → ∃ found, read? value = some found ∧ view result = some found
  keeps : ∀ {state result key value}, set state key value = .ok result →
    String.ofList key ∉ names → view result = view state

/-- After assignments, what they govern is what the value of the last one is read as, and what it
was before if there is none. -/
theorem Governs.foldlM_apply {ω : Type} {names : List String} {read? : List Char → Option ω}
    {view : σ → Option ω} (governs : Governs set names read? view) {parts : List (List Char)}
    (applied : parts.foldlM (apply malformed set) state = .ok result) :
    (∀ value ∈ lastOf? names (ofParts parts),
      ∃ found, read? value = some found ∧ view result = some found) ∧
    (lastOf? names (ofParts parts) = none → view result = view state) := by
  induction parts generalizing state with
  | nil =>
    cases applied
    exact ⟨nofun, fun _ => rfl⟩
  | cons part parts ih =>
    rw [List.foldlM_cons] at applied
    obtain ⟨next, here, later⟩ := exists_of_bind_eq_ok applied
    obtain ⟨reads, keeps⟩ := ih later
    cases split : ofPart? part with
    | none =>
      rw [apply_of_none split] at here
      contradiction
    | some assignment =>
      obtain ⟨key, value⟩ := assignment
      rw [apply_of_some split] at here
      rw [ofParts_cons_of_some parts split, lastOf?_cons]
      cases last : lastOf? names (ofParts parts) with
      | some written =>
        refine ⟨fun value among => ?_, nofun⟩
        cases among
        exact reads written last
      | none =>
        have kept := keeps last
        rw [Option.none_or]
        by_cases named : String.ofList key ∈ names
        · rw [if_pos named]
          refine ⟨fun written among => ?_, nofun⟩
          cases among
          obtain ⟨found, read, seen⟩ := governs.reads here named
          exact ⟨found, read, kept.trans seen⟩
        · rw [if_neg named]
          exact ⟨nofun, fun _ => kept.trans (governs.keeps here named)⟩

/-- Where a text is accepted, what its assignments govern is what the value of the last one is read
as, and what it is afresh if there is none. -/
theorem Governs.last {ω : Type} {names : List String} {read? : List Char → Option ω}
    {view : σ → Option ω} (governs : Governs set names read? view) {text : String}
    (accepted : applyAll malformed set fresh text.toList = .ok result) :
    (∀ value ∈ last? names text, ∃ found, read? value = some found ∧ view result = some found) ∧
    (last? names text = none → view result = view fresh) :=
  governs.foldlM_apply accepted

end

end Assay.Assignment
