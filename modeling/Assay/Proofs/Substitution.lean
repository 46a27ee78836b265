import Assay.Scorer
import Mathlib.Data.List.Basic

/-!
# Filling in and substitution

To substitute values for the placeholders of a template is to read the template once, from left
to right, as characters and slots, and to write each slot as its value. Filling in replaces the
placeholders of one name after the other in the whole text, so it looks for the later names in
what earlier values brought in. The two agree at a name, whatever its value is, exactly when its
placeholder occurs in the text so far as often as in the template: then none was brought in and
none was completed by what was.
-/
namespace Assay.Text

/-- How often a text occurs in another one. -/
def occurrences (old text : List Char) : Nat :=
  text.tails.countP fun rest => old <+: rest

/-- A character in front adds an occurrence when one starts with it. -/
theorem occurrences_cons (old text : List Char) (c : Char) :
    occurrences old (c :: text) =
      occurrences old text + if old <+: c :: text then 1 else 0 := by
  rw [occurrences, List.tails, List.countP_cons]
  simp only [decide_eq_true_eq]
  rfl

/-- A text in front takes no occurrence away. -/
theorem occurrences_le_append (old front text : List Char) :
    occurrences old text ≤ occurrences old (front ++ text) := by
  induction front with
  | nil => exact Nat.le_refl _
  | cons c front ih =>
    rw [List.cons_append, occurrences_cons]
    omega

section

variable {old : List Char} (new : List Char)

/-- Something follows a text exactly in those texts that start with it. -/
theorem isSome_after?_iff (lead text : List Char) :
    (after? lead text).isSome = true ↔ lead <+: text := by
  induction lead generalizing text with
  | nil => simp [after?]
  | cons l lead ih =>
    cases text with
    | nil => simp [after?]
    | cons c text =>
      by_cases same : l = c
      · simp [after?, same, ih]
      · simp [after?, same]

/-- Characters that belong to an occurrence are passed over. -/
theorem replaceFrom_append (passed text : List Char) :
    replaceFrom old new passed.length (passed ++ text) = replaceFrom old new 0 text := by
  induction passed with
  | nil => rfl
  | cons c passed ih => exact ih

/-- A character at which no occurrence starts is kept. -/
theorem replaceAll_cons_of_not {c : Char} {text : List Char}
    (none : ¬old <+: c :: text) :
    replaceAll old new (c :: text) = c :: replaceAll old new text := by
  rw [replaceAll, replaceFrom, if_neg ((isSome_after?_iff ..).not.2 none)]
  rfl

/-- An occurrence in front is replaced. -/
theorem replaceAll_append_self (nonempty : old ≠ []) (text : List Char) :
    replaceAll old new (old ++ text) = new ++ replaceAll old new text := by
  obtain ⟨c, rest, rfl⟩ := List.exists_cons_of_ne_nil nonempty
  have found : c :: rest <+: c :: (rest ++ text) := List.prefix_append (c :: rest) text
  rw [List.cons_append, replaceAll, replaceFrom, if_pos ((isSome_after?_iff ..).2 found)]
  exact congrArg (new ++ ·) (replaceFrom_append new rest text)

/-- A text in front in which no occurrence starts is kept. -/
theorem replaceAll_append_of_occurrences {front text : List Char}
    (none : occurrences old (front ++ text) = occurrences old text) :
    replaceAll old new (front ++ text) = front ++ replaceAll old new text := by
  induction front with
  | nil => rfl
  | cons c front ih =>
    have more := occurrences_le_append old front text
    rw [List.cons_append, occurrences_cons] at none
    by_cases here : old <+: c :: (front ++ text)
    · rw [if_pos here] at none
      omega
    · rw [if_neg here] at none
      rw [List.cons_append, replaceAll_cons_of_not new here, ih none]
      rfl

end

/-- A name has no braces, so its placeholder has them at its ends only. -/
def Braceless (name : List Char) : Prop := '\x7b' ∉ name ∧ '\x7d' ∉ name

instance (name : List Char) : Decidable (Braceless name) :=
  inferInstanceAs (Decidable (_ ∧ _))

section

variable {name other : List Char}

/-- A placeholder is not the empty text. -/
theorem placeholder_ne_nil (name : List Char) : placeholder name ≠ [] := List.cons_ne_nil _ _

/-- A name goes up to the first closing brace. -/
theorem eq_of_append_brace {rest text : List Char} (braceless : Braceless name)
    (otherBraceless : Braceless other)
    (same : name ++ '\x7d' :: rest = other ++ '\x7d' :: text) : name = other := by
  rcases List.append_eq_append_iff.1 same with ⟨more, rfl, brace⟩ | ⟨more, rfl, brace⟩
  · cases more with
    | nil => simp
    | cons c more =>
      obtain ⟨rfl, -⟩ := List.cons.inj brace
      exact absurd otherBraceless.2 (by simp)
  · cases more with
    | nil => simp
    | cons c more =>
      obtain ⟨rfl, -⟩ := List.cons.inj brace
      exact absurd braceless.2 (by simp)

/-- A text that starts with a placeholder starts with no other one. -/
theorem prefix_placeholder_iff (braceless : Braceless name) (otherBraceless : Braceless other)
    (text : List Char) :
    placeholder name <+: placeholder other ++ text ↔ name = other := by
  constructor
  · rintro ⟨rest, same⟩
    simp only [placeholder, List.cons_append, List.append_assoc, List.nil_append,
      List.cons.injEq, true_and] at same
    exact eq_of_append_brace braceless otherBraceless same
  · rintro rfl
    exact List.prefix_append ..

/-- No placeholder starts in a text without opening braces. -/
theorem occurrences_append_of_notMem (name : List Char) {front : List Char}
    (unopened : '\x7b' ∉ front) (text : List Char) :
    occurrences (placeholder name) (front ++ text) = occurrences (placeholder name) text := by
  induction front with
  | nil => rfl
  | cons c front ih =>
    obtain ⟨different, rest⟩ := not_or.1 (List.mem_cons.not.1 unopened)
    have here : ¬placeholder name <+: c :: (front ++ text) := by
      simp [placeholder, List.cons_prefix_cons, different]
    rw [List.cons_append, occurrences_cons, if_neg here, ih rest]
    rfl

/-- A placeholder in front is an occurrence of itself and of no other one. -/
theorem occurrences_placeholder_append (braceless : Braceless name)
    (otherBraceless : Braceless other) (text : List Char) :
    occurrences (placeholder name) (placeholder other ++ text) =
      occurrences (placeholder name) text + if name = other then 1 else 0 := by
  have inside : '\x7b' ∉ other ++ ['\x7d'] := by simp [otherBraceless.1]
  have later := occurrences_append_of_notMem name inside text
  have here := prefix_placeholder_iff braceless otherBraceless text
  rw [show placeholder other ++ text = '\x7b' :: (other ++ ['\x7d'] ++ text) from rfl] at here ⊢
  rw [occurrences_cons, later, if_congr here rfl rfl]

end

/-- A piece of a template: a character, or a slot for a value. -/
inductive Piece where
  | char (c : Char)
  | slot (name : List Char)
deriving DecidableEq

/-- Write pieces, each slot as the value that its name has. -/
def render (value : List Char → List Char) (pieces : List Piece) : List Char :=
  pieces.flatMap fun piece =>
    match piece with
    | .char c => [c]
    | .slot name => value name

/-- Read a template, where `passed` characters belong to the slot read last. -/
def piecesFrom (names : List (List Char)) : (passed : Nat) → List Char → List Piece
  | _, [] => []
  | passed + 1, _ :: text => piecesFrom names passed text
  | 0, c :: text =>
    match names.find? fun name => placeholder name <+: c :: text with
    | some name => .slot name :: piecesFrom names (name.length + 1) text
    | none => .char c :: piecesFrom names 0 text

/-- Read a template with slots for the given names. -/
def pieces (names : List (List Char)) (template : List Char) : List Piece :=
  piecesFrom names 0 template

/-- The value of a name, which without one stands for its own placeholder. -/
def valueOf (values : List (List Char × List Char)) (name : List Char) : List Char :=
  (values.lookup name).getD (placeholder name)

/-- Substitute values for the placeholders of a template, all at once. -/
def substituteIn (template : List Char) (values : List (List Char × List Char)) : List Char :=
  render (valueOf values) (pieces (values.map Prod.fst) template)

/-- Substitute texts for the placeholders of a template, all at once. -/
def substitute (template : String) (values : List (String × String)) : String :=
  String.ofList (substituteIn template.toList
    (values.map fun (name, value) => (name.toList, value.toList)))

section

variable {names : List (List Char)}

/-- A text that starts with the placeholder of a name that is found goes on behind it. -/
theorem eq_placeholder_append {name text : List Char} {c : Char}
    (found : names.find? (fun name => placeholder name <+: c :: text) = some name) :
    c :: text = placeholder name ++ text.drop (name.length + 1) := by
  have starts : placeholder name <+: c :: text := by simpa using List.find?_some found
  obtain ⟨rest, whole⟩ := starts
  have behind : text.drop (name.length + 1) = rest := by
    have longer := congrArg (List.drop (name.length + 2)) whole
    simpa [placeholder] using longer.symm
  rw [behind, whole]

/-- What is read is the template when every slot is written as its placeholder. -/
theorem render_piecesFrom (passed : Nat) (template : List Char) :
    render placeholder (piecesFrom names passed template) = template.drop passed := by
  fun_induction piecesFrom names passed template with
  | case1 => simp [render]
  | case2 passed c text ih => exact ih
  | case3 c text name found ih =>
    rw [List.drop_zero, eq_placeholder_append found, ← ih]
    rfl
  | case4 c text missing ih =>
    exact congrArg (c :: ·) ih

/-- A template has as many slots for a name as its placeholder has occurrences. -/
theorem count_piecesFrom (braceless : ∀ name ∈ names, Braceless name) {name : List Char}
    (known : name ∈ names) (passed : Nat) (template : List Char) :
    (piecesFrom names passed template).count (.slot name) =
      occurrences (placeholder name) (template.drop passed) := by
  fun_induction piecesFrom names passed template with
  | case1 => simp [occurrences, placeholder]
  | case2 passed c text ih => exact ih
  | case3 c text other found ih =>
    have member := List.mem_of_find?_eq_some found
    have same : (Piece.slot other == Piece.slot name) = true ↔ name = other := by
      rw [beq_iff_eq, Piece.slot.injEq]
      exact eq_comm
    rw [List.drop_zero, eq_placeholder_append found,
      occurrences_placeholder_append (braceless name known) (braceless other member), ← ih,
      List.count_cons, if_congr same rfl rfl]
  | case4 c text missing ih =>
    have here : ¬placeholder name <+: c :: text := by
      simpa using List.find?_eq_none.1 missing name known
    rw [List.drop_zero, occurrences_cons, if_neg here, List.count_cons, ih]
    rfl

end

section

variable {name : List Char} {value : List Char → List Char}

/-- Pieces with one more in front. -/
theorem render_cons (value : List Char → List Char) (piece : Piece) (rest : List Piece) :
    render value (piece :: rest) = render value [piece] ++ render value rest := by
  simp [render]

/-- A value for a name matters to its slots only. -/
theorem render_update_of_ne {piece : Piece} (different : piece ≠ .slot name) {new : List Char} :
    render (Function.update value name new) [piece] = render value [piece] := by
  cases piece with
  | char c => rfl
  | slot other =>
    have others : other ≠ name := fun same => different (congrArg Piece.slot same)
    simp [render, others]

/-- Where slots of a name are written as its placeholder, these are occurrences of it. -/
theorem count_le_occurrences (braceless : Braceless name) (own : value name = placeholder name)
    (pieces : List Piece) :
    pieces.count (.slot name) ≤ occurrences (placeholder name) (render value pieces) := by
  induction pieces with
  | nil => exact Nat.zero_le _
  | cons piece rest ih =>
    rw [render_cons, List.count_cons]
    by_cases same : piece = .slot name
    · have written : render value [piece] = placeholder name := by simp [render, same, own]
      rw [written, occurrences_placeholder_append braceless braceless, if_pos rfl,
        if_pos (by simpa using same)]
      omega
    · have more := occurrences_le_append (placeholder name) (render value [piece])
        (render value rest)
      rw [if_neg (by simpa using same)]
      omega

/-- A value for a name changes the length by what it is longer or shorter than before. -/
theorem length_render_update (name : List Char) (value : List Char → List Char)
    (pieces : List Piece) (new : List Char) :
    (render (Function.update value name new) pieces).length +
        pieces.count (.slot name) * (value name).length =
      (render value pieces).length + pieces.count (.slot name) * new.length := by
  induction pieces with
  | nil => simp [render]
  | cons piece rest ih =>
    rw [render_cons, render_cons value, List.count_cons, List.length_append,
      List.length_append]
    by_cases same : piece = .slot name
    · subst same
      have before : render value [.slot name] = value name := List.append_nil _
      have after : render (Function.update value name new) [.slot name] = new := by
        simp [render]
      rw [before, after, if_pos (by simp), Nat.add_mul, Nat.add_mul]
      omega
    · rw [render_update_of_ne same, if_neg (by simpa using same), Nat.add_zero]
      omega

/-- Where a placeholder has no occurrences but the slots of its name, replacing it gives the
slots their value. -/
theorem replaceAll_render (braceless : Braceless name) (own : value name = placeholder name)
    {pieces : List Piece}
    (few : occurrences (placeholder name) (render value pieces) = pieces.count (.slot name))
    (new : List Char) :
    replaceAll (placeholder name) new (render value pieces) =
      render (Function.update value name new) pieces := by
  induction pieces with
  | nil => rfl
  | cons piece rest ih =>
    have enough := count_le_occurrences braceless own rest
    rw [render_cons, List.count_cons] at few
    rw [render_cons, render_cons (Function.update value name new)]
    by_cases same : piece = .slot name
    · subst same
      have written : render value [.slot name] = placeholder name := by simp [render, own]
      have replaced : render (Function.update value name new) [.slot name] = new := by
        simp [render]
      rw [written, occurrences_placeholder_append braceless braceless, if_pos rfl,
        if_pos (by simp)] at few
      rw [written, replaced, replaceAll_append_self new (placeholder_ne_nil name),
        ih (by omega)]
    · have more := occurrences_le_append (placeholder name) (render value [piece])
        (render value rest)
      rw [if_neg (by simpa using same)] at few
      rw [replaceAll_append_of_occurrences new (by omega), ih (by omega),
        render_update_of_ne same]

/-- Replacing a placeholder gives the slots of its name their value, whatever that is, exactly
when the placeholder has no other occurrences. -/
theorem replaceAll_render_iff (braceless : Braceless name) (own : value name = placeholder name)
    (pieces : List Piece) :
    (∀ new, replaceAll (placeholder name) new (render value pieces) =
        render (Function.update value name new) pieces) ↔
      occurrences (placeholder name) (render value pieces) = pieces.count (.slot name) := by
  constructor
  · intro agrees
    -- The text is a template of its own, with a slot at each occurrence. A value that is longer
    -- than the placeholder by one character counts the slots on both sides.
    let text := render value pieces
    let found := Text.pieces [name] text
    have only : ∀ other ∈ [name], Braceless other := by simpa using braceless
    have whole : render placeholder found = text := render_piecesFrom 0 text
    have slots : found.count (.slot name) = occurrences (placeholder name) text :=
      count_piecesFrom only (List.mem_singleton_self name) 0 text
    let new := placeholder name ++ [' ']
    have replaced : replaceAll (placeholder name) new text =
        render (Function.update placeholder name new) found := by
      rw [← whole]
      exact replaceAll_render braceless rfl (by rw [whole, slots]) new
    have left := length_render_update name placeholder found new
    have right := length_render_update name value pieces new
    rw [← replaced, agrees new, whole, slots] at left
    rw [own] at right
    have longer : new.length = (placeholder name).length + 1 := List.length_append
    rw [longer, Nat.mul_succ] at left right
    change _ = text.length + _ at right
    change occurrences (placeholder name) text = _
    omega
  · exact fun few new => replaceAll_render braceless own few new

end

/-- Filling in goes on with the text in which the first placeholder has been replaced. -/
theorem fillIn_cons (text name value : List Char) (later : List (List Char × List Char)) :
    fillIn text ((name, value) :: later) =
      fillIn (replaceAll (placeholder name) value text) later := rfl

/-- When the placeholders of names are replaced one after the other, each occurs in the text so
far as often as in the template. -/
def Undisturbed (template : List Char) : (text : List Char) →
    (values : List (List Char × List Char)) → Prop
  | _, [] => True
  | text, (name, value) :: later =>
    occurrences (placeholder name) text = occurrences (placeholder name) template ∧
      Undisturbed template (replaceAll (placeholder name) value text) later

/-- Whether later placeholders are undisturbed can be tried out. -/
instance decidableUndisturbed (template : List Char) :
    (text : List Char) → (values : List (List Char × List Char)) →
      Decidable (Undisturbed template text values)
  | _, [] => .isTrue trivial
  | text, (name, value) :: later =>
    have := decidableUndisturbed template (replaceAll (placeholder name) value text) later
    inferInstanceAs (Decidable (_ ∧ _))

/-- A name that is not among those with a value has none. -/
theorem lookup_eq_none {values : List (List Char × List Char)} {name : List Char}
    (other : name ∉ values.map Prod.fst) : values.lookup name = none := by
  rw [List.lookup_eq_none_iff]
  intro pair member
  have different : name ≠ pair.1 := fun same => other (same ▸ List.mem_map_of_mem member)
  simpa using different

/-- A name without a value stands for its own placeholder. -/
theorem valueOf_of_notMem {values : List (List Char × List Char)} {name : List Char}
    (other : name ∉ values.map Prod.fst) : valueOf values name = placeholder name := by
  rw [valueOf, lookup_eq_none other]
  rfl

/-- A value for one more name. -/
theorem valueOf_append (earlier : List (List Char × List Char)) {name : List Char}
    (other : name ∉ earlier.map Prod.fst) (value : List Char) :
    valueOf (earlier ++ [(name, value)]) = Function.update (valueOf earlier) name value := by
  funext asked
  rw [valueOf, List.lookup_append]
  by_cases same : asked = name
  · subst same
    simp [lookup_eq_none other]
  · have absent : (asked == name) = false := beq_eq_false_iff_ne.2 same
    simp [valueOf, List.lookup_cons, absent, same]

section

variable {names : List (List Char)} (template : List Char)

/-- The names that are left are undisturbed exactly when filling each of them in, whatever its
value is, puts the value into the slots of the template beside those of the names before. -/
theorem undisturbed_render_iff (braceless : ∀ name ∈ names, Braceless name)
    (earlier values : List (List Char × List Char))
    (distinct : ((earlier ++ values).map Prod.fst).Nodup)
    (known : ∀ pair ∈ values, pair.1 ∈ names) :
    Undisturbed template (render (valueOf earlier) (pieces names template)) values ↔
      ∀ before name value after, values = before ++ (name, value) :: after → ∀ new,
        fillIn (render (valueOf earlier) (pieces names template)) (before ++ [(name, new)]) =
          render (valueOf (earlier ++ before ++ [(name, new)])) (pieces names template) := by
  induction values generalizing earlier with
  | nil => simp [Undisturbed]
  | cons pair later ih =>
    obtain ⟨name, value⟩ := pair
    have member : name ∈ names := known (name, value) (List.mem_cons_self ..)
    have other : name ∉ earlier.map Prod.fst := by
      intro among
      rw [List.map_append, List.nodup_append] at distinct
      exact distinct.2.2 name among name (by simp) rfl
    have slots : (pieces names template).count (.slot name) =
        occurrences (placeholder name) template := count_piecesFrom braceless member 0 template
    have here := replaceAll_render_iff (braceless name member) (valueOf_of_notMem other)
      (pieces names template)
    rw [slots] at here
    have further := ih (earlier ++ [(name, value)]) (by simpa using distinct)
      fun pair among => known pair (List.mem_cons_of_mem _ among)
    constructor
    · rintro ⟨few, rest⟩ before asked given after split new
      have replaced := here.2 few
      cases before with
      | nil =>
        obtain ⟨same, -⟩ := List.cons.inj split
        obtain ⟨rfl, -⟩ := Prod.mk.inj same
        rw [List.append_nil, valueOf_append earlier other]
        exact replaced new
      | cons pair before =>
        obtain ⟨rfl, rfl⟩ := List.cons.inj split
        have stage := replaced value
        rw [← valueOf_append earlier other] at stage
        rw [stage] at rest
        have filled := further.1 rest before asked given after rfl new
        rw [List.cons_append, fillIn_cons, stage, filled]
        simp
    · intro fills
      have replaced (new : List Char) := fills [] name value later rfl new
      simp only [List.append_nil, valueOf_append earlier other] at replaced
      refine ⟨here.1 replaced, ?_⟩
      have stage := replaced value
      rw [← valueOf_append earlier other, List.nil_append, fillIn_cons] at stage
      change replaceAll (placeholder name) value _ = _ at stage
      rw [stage]
      refine further.2 fun before asked given after split new => ?_
      have filled := fills ((name, value) :: before) asked given after (by rw [split]; rfl) new
      rw [List.cons_append, fillIn_cons, stage] at filled
      rw [filled]
      simp

/-- Undisturbed filling in is substitution. -/
theorem fillIn_eq_substituteIn {values : List (List Char × List Char)}
    (braceless : ∀ name ∈ values.map Prod.fst, Braceless name)
    (distinct : (values.map Prod.fst).Nodup)
    (undisturbed : Undisturbed template template values) :
    fillIn template values = substituteIn template values := by
  have whole : render (valueOf []) (pieces (values.map Prod.fst) template) = template :=
    render_piecesFrom 0 template
  have fills := undisturbed_render_iff template braceless [] values distinct
    fun pair member => List.mem_map_of_mem member
  rw [whole] at fills
  rcases List.eq_nil_or_concat values with rfl | ⟨before, last, rfl⟩
  · exact whole.symm
  · rw [List.concat_eq_append] at *
    exact fills.1 undisturbed before last.1 last.2 [] rfl last.2

end

end Assay.Text

namespace Assay.Scorer

/-- What a grading template is filled in with, in order. -/
def fillings (instructions : String) (attempt : Attempt) : List (String × String) :=
  [("question", attempt.sample.input), ("answer", attempt.output.completion),
    ("criterion", ", ".intercalate attempt.sample.target), ("instructions", instructions)]

/-- What a grading template is filled in with, as lists of characters. -/
def fillingChars (instructions : String) (attempt : Attempt) : List (List Char × List Char) :=
  (fillings instructions attempt).map fun (name, value) => (name.toList, value.toList)

/-- A grading prompt is the substitution of the question, the answer, the criterion and the
instructions in the template, with all of them verbatim, when each placeholder occurs in the text
in which it is looked for as often as in the template. -/
theorem gradingPrompt_eq_substitute (template instructions : String) (attempt : Attempt)
    (undisturbed : Text.Undisturbed template.toList template.toList
      (fillingChars instructions attempt)) :
    gradingPrompt template instructions attempt =
      Text.substitute template (fillings instructions attempt) := by
  have names : (fillingChars instructions attempt).map Prod.fst =
      ["question".toList, "answer".toList, "criterion".toList, "instructions".toList] := rfl
  have braceless : ∀ name ∈ (fillingChars instructions attempt).map Prod.fst,
      Text.Braceless name := by
    rw [names]
    decide
  have distinct : ((fillingChars instructions attempt).map Prod.fst).Nodup := by
    rw [names]
    decide
  exact congrArg String.ofList (Text.fillIn_eq_substituteIn _ braceless distinct undisturbed)

/-- An attempt at a question that the model answered with a text. -/
def answered (text : String) : Attempt :=
  (Attempt.start { input := "Who?", target := ["Trump"] } "model").continued
    (.ofText "model" text .stop none)

/-- A placeholder in an answer stays as it is when it was filled in before the answer was. -/
theorem gradingPrompt_eq_substitute_question :
    Text.Undisturbed "\x7bquestion\x7d \x7banswer\x7d".toList
        "\x7bquestion\x7d \x7banswer\x7d".toList
        (fillingChars "Grade it." (answered "\x7bquestion\x7d")) ∧
      gradingPrompt "\x7bquestion\x7d \x7banswer\x7d" "Grade it."
          (answered "\x7bquestion\x7d") =
        Text.substitute "\x7bquestion\x7d \x7banswer\x7d"
          (fillings "Grade it." (answered "\x7bquestion\x7d")) := by
  have undisturbed : Text.Undisturbed "\x7bquestion\x7d \x7banswer\x7d".toList
      "\x7bquestion\x7d \x7banswer\x7d".toList
      (fillingChars "Grade it." (answered "\x7bquestion\x7d")) := by
    decide
  exact ⟨undisturbed, gradingPrompt_eq_substitute _ _ _ undisturbed⟩

/-- A placeholder in an answer is filled in when its turn comes after the answer: an answer that
names the criterion brings the reference answers into the prompt. -/
theorem gradingPrompt_expands_answer :
    ¬∀ template instructions attempt, gradingPrompt template instructions attempt =
      Text.substitute template (fillings instructions attempt) := by
  intro verbatim
  have same := verbatim "\x7banswer\x7d" "Grade it." (answered "\x7bcriterion\x7d")
  revert same
  decide

end Assay.Scorer
