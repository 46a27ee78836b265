import Assay.ModelArguments
import Assay.Proofs.Assignments
import Assay.Proofs.Compact
import Assay.Proofs.Following

/-!
# Model arguments

Two texts of model arguments with a comma between them are the arguments of the first and then
those of the second (`ModelArguments.ofText_layer`). A field that is open by default tells whether
a text has set it. The two limits have defaults of their own, so that it takes the keys of the
second text to know whether it sets them.

A further member is passed on as the value that its text is written of, unless that text holds a
comma (`ModelArguments.sets_compact_iff`): arguments are cut at commas before a value is read. What
stands before the first comma never makes up for it. Reading does not look ahead, so a front that
is a value by itself would have ended the whole text, and a front that is none is a text without a
comma.
-/
namespace Assay.ModelArguments

open Json

/-! ## Two texts -/

/-- Arguments after earlier ones, where they were set by assignments to the given keys: further
members are added to the earlier ones, and everything else that is set takes their place. -/
def layer (keys : List String) (before after : ModelArguments) : ModelArguments where
  address := after.address.or before.address
  key := after.key.or before.key
  timeout := after.timeout.or before.timeout
  maxRetries := if "max_retries" ∈ keys then after.maxRetries else before.maxRetries
  maxConnections :=
    if "max_connections" ∈ keys then after.maxConnections else before.maxConnections
  extra := before.extra ++ after.extra

/-- Arguments that assignments have set go over those set before. -/
theorem layered_layer : Assignment.Layered set {} layer where
  layer_fresh before := by
    simp only [layer, Option.none_or, List.not_mem_nil, if_false, List.append_nil]
  layer_layer first second before middle after := by
    have later {α : Type} (key : String) (x y z : α) :
        (if key ∈ second then z else if key ∈ first then y else x) =
          if key ∈ first ++ second then (if key ∈ second then z else y) else x := by
      by_cases inSecond : key ∈ second
      · rw [if_pos inSecond, if_pos (List.mem_append_right _ inSecond), if_pos inSecond]
      · simp only [inSecond, if_false, List.mem_append, or_false]
    simp only [layer, Option.or_assoc, List.append_assoc, later]
  set_eq before key value := by
    unfold set
    split
    case h_1 here => simp [layer, here, Except.map]
    case h_2 here => simp [layer, here, Except.map]
    case h_3 here =>
      rw [here]
      cases timeoutOf value <;> simp [layer, bind, Except.bind, Except.map]
    case h_4 here =>
      rw [here]
      cases Sampling.valueOf Sampling.word32? key value <;>
        simp [layer, bind, Except.bind, Except.map]
    case h_5 here =>
      rw [here]
      cases Sampling.valueOf Sampling.word64? key value <;>
        simp [layer, bind, Except.bind, Except.map]
    case h_6 notRetries notConnections =>
      have retries : "max_retries" ∉ [String.ofList key] := by
        rw [List.mem_singleton]
        exact fun same => notRetries same.symm
      have connections : "max_connections" ∉ [String.ofList key] := by
        rw [List.mem_singleton]
        exact fun same => notConnections same.symm
      simp only [layer, Except.map, if_neg retries, if_neg connections, Option.none_or,
        List.nil_append]

/-- Two texts with a comma between them are the arguments of the first and then those of the
second. They are refused as the first text is, and if it is not, as the second is. -/
theorem ofText_layer (first second : String) :
    ofText (first ++ "," ++ second) =
      (do
        let before ← ofText first
        let after ← ofText second
        .ok (layer (Assignment.keys second) before after)) :=
  Assignment.applyAll_comma layered_layer first second

/-! ## Further members -/

/-- The keys that set something else than a further member. -/
def knownKeys : List String :=
  ["base_url", "api_key", "timeout", "max_retries", "max_connections"]

/-- A name that a further member of every request can be given. -/
structure IsFurther (name : String) : Prop where
  unknown : name ∉ knownKeys
  isKey : Assignment.IsKey name.toList

/-- A text that sets a further member to a value and nothing else. -/
def Sets (text name : String) (value : Value) : Prop :=
  ∃ arguments, ofText text = .ok arguments ∧ arguments.extra = [(name, value)]

/-- A key that is not known adds a further member. -/
theorem set_of_unknown {name : String} (unknown : name ∉ knownKeys) (arguments : ModelArguments)
    (value : List Char) :
    set arguments name.toList value = .ok { arguments with
      extra := arguments.extra ++ [(name, extraValue (String.ofList value))] } := by
  unfold set
  split
  case h_6 => rw [String.ofList_toList]
  all_goals next same =>
    rw [String.ofList_toList] at same
    exact absurd (same ▸ by decide) unknown

/-- A further member without a comma is what its text stands for without the blanks at its ends. -/
theorem applyAll_further {name : String} (further : IsFurther name) {written : List Char}
    (whole : ',' ∉ written) :
    Assignment.applyAll .malformedArgument set {} (name.toList ++ '=' :: written) =
      .ok { extra := [(name, extraValue (String.ofList (Text.trim written)))] } := by
  rw [Assignment.applyAll_assign further.isKey whole, set_of_unknown further.unknown]
  rfl

/-- A value whose text holds a comma is not what the text before the comma stands for. -/
theorem extraValue_front_ne {value : Value} (plain : value.IsPlain depthLimit)
    {front back : List Char} (whole : ',' ∉ front)
    (written : writeValue value = front ++ ',' :: back) :
    extraValue (String.ofList (Text.trim front)) ≠ value := by
  obtain ⟨c, later, first, solid, noComma⟩ := exists_writeValue_eq_cons plain
  obtain ⟨blanks, cutOff⟩ : ∃ blanks, front = Text.trim front ++ blanks := by
    cases front with
    | nil => exact absurd (List.cons.inj (first.symm.trans written)).1 noComma
    | cons d tail =>
      have same : c = d := (List.cons.inj (first.symm.trans written)).1
      exact Text.exists_eq_trim_append (same ▸ solid) tail
  intro same
  unfold extraValue at same
  split at same
  case h_1 found parsed =>
    -- The whole text is a value too, so that its front can only be a number.
    have read := plain.recovers [] nofun
    rw [List.append_nil, written, cutOff, List.append_assoc] at read
    have number : value.IsNumber :=
      same ▸ isNumber_of_parse_front parsed read (List.append_ne_nil_of_right_ne_nil _ nofun)
    have member : ',' ∈ writeValue value := by simp [written]
    cases number with
    | int number => exact (isSolid_of_mem_writeInt member).2 rfl
    | real number => cases plain
  case h_2 =>
    have fewer : ',' ∉ (String.ofList (Text.trim front)).toList := by
      rw [String.toList_ofList]
      rw [cutOff] at whole
      exact fun member => whole (List.mem_append_left _ member)
    have text : writeText (String.ofList (Text.trim front)) = writeValue value :=
      congrArg writeValue same
    exact comma_notMem_writeText fewer (by simp [text, written])

/-- The text of a value sets a further member to that value exactly when it holds no comma. -/
theorem sets_compact_iff {name : String} {value : Value} (further : IsFurther name)
    (plain : value.IsPlain depthLimit) :
    Sets (name ++ "=" ++ compact value) name value ↔ ',' ∉ (compact value).toList := by
  have joined (rest : String) :
      (name ++ "=" ++ rest).toList = name.toList ++ '=' :: rest.toList := by simp
  constructor
  · rintro ⟨arguments, accepted, only⟩ member
    obtain ⟨front, back, written, whole⟩ := List.eq_append_cons_of_mem member
    have split : name ++ "=" ++ compact value =
        name ++ "=" ++ String.ofList front ++ "," ++ String.ofList back := by
      apply String.toList_injective
      simp [written]
    rw [split, ofText, Assignment.applyAll_comma layered_layer] at accepted
    obtain ⟨before, first, goesOn⟩ := exists_of_bind_eq_ok accepted
    obtain ⟨after, _, made⟩ := exists_of_bind_eq_ok goesOn
    rw [joined, String.toList_ofList, applyAll_further further whole] at first
    cases first
    cases made
    have same : (name, extraValue (String.ofList (Text.trim front))) = (name, value) :=
      (List.cons.inj only).1
    rw [compact, String.toList_ofList] at written
    exact extraValue_front_ne plain whole written (congrArg Prod.snd same)
  · intro whole
    have read : extraValue (compact value) = value := by rw [extraValue, parse_compact plain]
    have accepted : ofText (name ++ "=" ++ compact value) = .ok { extra := [(name, value)] } := by
      rw [ofText, joined, applyAll_further further whole, trim_compact plain,
        String.ofList_toList, read]
    exact ⟨_, accepted, rfl⟩

-- Where the text is cut inside a value, what is left can be accepted as something else.
example : (ofText ("k=" ++ compact (.object [("a", .int 1), ("b=", .int 2)]))).map (·.extra) =
    .ok [("k", .text "\x7b\"a\":1"), ("\"b", .text "\":2\x7d")] := rfl

/-- A value whose text holds an equals sign, a blank and escapes, but no comma. -/
def nested : Value := .object [("a=b", .list [.object [("c", .text " \"\n")]])]

/-- Two members, with a comma between them. -/
def pair : Value := .object [("a", .int 1), ("b", .int 2)]

/-- A further member can be given this name. -/
theorem isFurther_custom : IsFurther "custom" :=
  ⟨by decide, by decide, by decide, by decide, by decide⟩

/-- A value of lists and objects is passed on where its text holds no comma. -/
theorem sets_compact_iff_nested :
    IsFurther "custom" ∧ nested.IsPlain depthLimit ∧
      Sets ("custom" ++ "=" ++ compact nested) "custom" nested := by
  have plain : nested.IsPlain depthLimit := by
    refine .object (by decide) (List.forall_mem_singleton.mpr (.list ?_))
    refine List.forall_mem_singleton.mpr (.object (by decide) ?_)
    exact List.forall_mem_singleton.mpr (.text _)
  exact ⟨isFurther_custom, plain, (sets_compact_iff isFurther_custom plain).mpr (by decide)⟩

/-- The text of an object with two members is cut between them, and its end refused. -/
theorem not_sets_compact_pair :
    ¬∀ name value, IsFurther name → value.IsPlain depthLimit →
      Sets (name ++ "=" ++ compact value) name value := by
  intro sets
  have plain : pair.IsPlain depthLimit := by
    refine .object (by decide) (List.forall_mem_cons.mpr ⟨?_, List.forall_mem_singleton.mpr ?_⟩)
    · exact .int (by decide) (by decide)
    · exact .int (by decide) (by decide)
  obtain ⟨arguments, accepted, _⟩ := sets "custom" pair isFurther_custom plain
  have refused : ofText ("custom" ++ "=" ++ compact pair) =
      .error (.malformedArgument "\"b\":2\x7d") := rfl
  rw [refused] at accepted
  contradiction

end Assay.ModelArguments
