import Assay.Proofs.Decoding
import Assay.Proofs.Members
import Assay.Proofs.Substitution

/-!
# Prompts from templates

A message is put into a template by replacing one placeholder after the other, first that of the
prompt and then those of the metadata. Where braces stand around the names of placeholders only, in
the template as well as in what is filled in, a replacement neither brings a placeholder in nor
completes one, and a placeholder that was replaced does not come back. So the template is filled in
as if all placeholders were replaced at once, the one of the prompt by the prompt even where the
metadata have its name, and the order of the metadata does not matter (`dress_eq`).
-/
namespace Assay

open Json

namespace Text

/-- A piece of a template has no braces but those around the name of a slot. -/
def Piece.IsPlain : Piece → Prop
  | .char c => c ≠ '\x7b' ∧ c ≠ '\x7d'
  | .slot name => Braceless name

instance : DecidablePred Piece.IsPlain
  | .char _ => inferInstanceAs (Decidable (_ ∧ _))
  | .slot _ => inferInstanceAs (Decidable (_ ∧ _))

section

variable {name : List Char} {value : List Char → List Char} {pieces : List Piece}

/-- Where braces are those of placeholders only, the placeholder of a name occurs as often as there
are slots that stand for themselves. -/
theorem occurrences_render (plain : ∀ piece ∈ pieces, piece.IsPlain)
    (settled : ∀ name, value name = placeholder name ∨ '\x7b' ∉ value name)
    (braceless : Braceless name) :
    occurrences (placeholder name) (render value pieces) =
      if value name = placeholder name then pieces.count (.slot name) else 0 := by
  induction pieces with
  | nil =>
    have none : occurrences (placeholder name) [] = 0 := by simp [occurrences, placeholder]
    exact none.trans (ite_self 0).symm
  | cons piece rest ih =>
    obtain ⟨here, later⟩ := List.forall_mem_cons.1 plain
    rw [render_cons, List.count_cons]
    cases piece with
    | char c =>
      have unopened : '\x7b' ∉ render value [.char c] := by
        simpa [render] using Ne.symm here.1
      rw [occurrences_append_of_notMem name unopened, ih later]
      rfl
    | slot other =>
      have written : render value [.slot other] = value other := List.append_nil _
      rw [written]
      rcases settled other with own | free
      · rw [own, occurrences_placeholder_append braceless here, ih later]
        by_cases same : name = other
        · subst same
          simp [own]
        · have different : (Piece.slot other == Piece.slot name) = false := by
            simpa using Ne.symm same
          rw [if_neg same, different]
          rfl
      · rw [occurrences_append_of_notMem name free, ih later]
        by_cases same : name = other
        · subst same
          have replaced : value name ≠ placeholder name := by
            intro own
            rw [own] at free
            exact free (List.mem_cons_self ..)
          rw [if_neg replaced, if_neg replaced]
        · have different : (Piece.slot other == Piece.slot name) = false := by
            simpa using Ne.symm same
          rw [different]
          rfl

/-- A text in which a placeholder does not occur stays as it is. -/
theorem replaceAll_of_occurrences {text : List Char} (new : List Char)
    (none : occurrences (placeholder name) text = 0) :
    replaceAll (placeholder name) new text = text := by
  have front : occurrences (placeholder name) (text ++ []) = occurrences (placeholder name) [] := by
    rw [List.append_nil, none]
    simp [occurrences, placeholder]
  have kept := replaceAll_append_of_occurrences new front
  rw [List.append_nil] at kept
  exact kept.trans (List.append_nil text)

end

section

variable {earlier : List (List Char × List Char)} {name : List Char}

/-- A name that is among those with a value has one. -/
theorem exists_lookup_of_mem (given : name ∈ earlier.map Prod.fst) :
    ∃ value, (name, value) ∈ earlier ∧ earlier.lookup name = some value := by
  cases found : earlier.lookup name with
  | none =>
    obtain ⟨pair, among, rfl⟩ := List.mem_map.1 given
    have different := List.lookup_eq_none_iff.1 found pair among
    simp at different
  | some value =>
    obtain ⟨before, after, rfl, -⟩ := List.lookup_eq_some_iff.1 found
    exact ⟨value, by simp, rfl⟩

/-- A second value for a name is not used. -/
theorem valueOf_append_of_mem (given : name ∈ earlier.map Prod.fst) (value : List Char) :
    valueOf (earlier ++ [(name, value)]) = valueOf earlier := by
  obtain ⟨first, -, found⟩ := exists_lookup_of_mem given
  funext asked
  rw [valueOf, List.lookup_append]
  by_cases same : asked = name
  · subst same
    rw [found, Option.some_or, valueOf, found]
  · have absent : (asked == name) = false := beq_eq_false_iff_ne.2 same
    simp [valueOf, List.lookup_cons, absent]

/-- A name with a value that has no opening brace does not stand for its placeholder. -/
theorem valueOf_ne_placeholder (free : ∀ pair ∈ earlier, '\x7b' ∉ pair.2)
    (given : name ∈ earlier.map Prod.fst) :
    '\x7b' ∉ valueOf earlier name ∧ valueOf earlier name ≠ placeholder name := by
  obtain ⟨value, among, found⟩ := exists_lookup_of_mem given
  have stands : valueOf earlier name = value := by
    rw [valueOf, found]
    rfl
  have unopened : '\x7b' ∉ value := free _ among
  rw [stands]
  refine ⟨unopened, ?_⟩
  rintro rfl
  exact unopened (List.mem_cons_self ..)

/-- Replacing one more placeholder gives its slots a value, unless they have one. -/
theorem replaceAll_render_valueOf {pieces : List Piece} (plain : ∀ piece ∈ pieces, piece.IsPlain)
    (free : ∀ pair ∈ earlier, '\x7b' ∉ pair.2) (braceless : Braceless name) (new : List Char) :
    replaceAll (placeholder name) new (render (valueOf earlier) pieces) =
      render (valueOf (earlier ++ [(name, new)])) pieces := by
  have settled : ∀ name, valueOf earlier name = placeholder name ∨
      '\x7b' ∉ valueOf earlier name := by
    intro name
    by_cases given : name ∈ earlier.map Prod.fst
    · exact .inr (valueOf_ne_placeholder free given).1
    · exact .inl (valueOf_of_notMem given)
  have count := occurrences_render plain settled braceless
  by_cases given : name ∈ earlier.map Prod.fst
  · rw [if_neg (valueOf_ne_placeholder free given).2] at count
    rw [valueOf_append_of_mem given, replaceAll_of_occurrences new count]
  · have own := valueOf_of_notMem given
    rw [if_pos own] at count
    rw [valueOf_append earlier given, replaceAll_render braceless own count]

/-- Where there are no braces but those of placeholders, filling in is substitution. -/
theorem fillIn_render {pieces : List Piece} (plain : ∀ piece ∈ pieces, piece.IsPlain)
    (free : ∀ pair ∈ earlier, '\x7b' ∉ pair.2) {values : List (List Char × List Char)}
    (braceless : ∀ pair ∈ values, Braceless pair.1 ∧ Braceless pair.2) :
    fillIn (render (valueOf earlier) pieces) values =
      render (valueOf (earlier ++ values)) pieces := by
  induction values generalizing earlier with
  | nil =>
    rw [List.append_nil]
    rfl
  | cons pair later ih =>
    obtain ⟨name, value⟩ := pair
    obtain ⟨here, rest⟩ := List.forall_mem_cons.1 braceless
    have longer : ∀ pair ∈ earlier ++ [(name, value)], '\x7b' ∉ pair.2 := by
      simpa [or_imp, forall_and, here.2.1] using free
    rw [fillIn_cons, replaceAll_render_valueOf plain free here.1, ih longer rest,
      List.append_assoc]
    rfl

end

end Text

namespace Attempt

open Text

/-- What a placeholder stands for in a template that a prompt is put into: the prompt under its own
name, a text of the metadata under the name of that, and any other one itself. -/
def standsFor (prompt : List Char) (metadata : Members) (name : List Char) : List Char :=
  if name = "prompt".toList then prompt
  else match metadata.get? (String.ofList name) with
    | some (.text content) => content.toList
    | _ => placeholder name

/-- The metadata that are texts, as lists of characters. -/
def textFillings (sample : Sample) : List (List Char × List Char) :=
  sample.textMetadata.map fun (name, value) => (name.toList, value.toList)

/-- The first member of the metadata counts if it is a text. -/
theorem textFillings_cons (sample : Sample) (name : String) (value : Value) (rest : Members) :
    textFillings { sample with metadata := (name, value) :: rest } =
      (value.text?.map fun content => (name.toList, content.toList)).toList ++
        textFillings { sample with metadata := rest } := by
  cases value <;> rfl

/-- Where each name of the metadata comes once, a name is filled in by the text that the metadata
have under it. -/
theorem lookup_textFillings (sample : Sample) {metadata : Members}
    (once : (metadata.map Prod.fst).Nodup) (name : List Char) :
    (textFillings { sample with metadata := metadata }).lookup name =
      ((metadata.get? (String.ofList name)).bind Value.text?).map String.toList := by
  induction metadata with
  | nil => rfl
  | cons member rest ih =>
    obtain ⟨key, value⟩ := member
    obtain ⟨alone, later⟩ := List.nodup_cons.1 once
    rw [textFillings_cons, List.lookup_append, ih later, Members.get?]
    by_cases same : key = String.ofList name
    · have absent : Members.get? (String.ofList name) rest = none := by
        rw [← not_ne_iff, Members.get?_ne_none_iff, ← same]
        exact alone
      have own : name = key.toList := by simp [same]
      rw [if_pos same, absent, own, Option.bind_some]
      cases value.text? <;> simp
    · have other : (name == key.toList) = false := by
        rw [beq_eq_false_iff_ne]
        rintro rfl
        exact same (String.ofList_toList).symm
      rw [if_neg same]
      cases value.text? <;> simp [List.lookup_cons, other]

/-- What a template is filled in with gives a placeholder what it stands for. -/
theorem valueOf_fillings (sample : Sample) {metadata : Members}
    (once : (metadata.map Prod.fst).Nodup) (prompt : List Char) :
    valueOf (("prompt".toList, prompt) :: textFillings { sample with metadata := metadata }) =
      standsFor prompt metadata := by
  funext name
  rw [valueOf, standsFor, List.lookup_cons]
  by_cases own : name = "prompt".toList
  · rw [if_pos own, own]
    simp
  · have other : (name == "prompt".toList) = false := beq_eq_false_iff_ne.2 own
    rw [if_neg own, other, lookup_textFillings sample once]
    cases metadata.get? (String.ofList name) with
    | none => rfl
    | some value => cases value <;> rfl

/-- The metadata hold no braces: neither the names nor the texts among the values. -/
def BracelessMetadata (metadata : Members) : Prop :=
  ∀ member ∈ metadata,
    Braceless member.1.toList ∧ ∀ content ∈ member.2.text?, Braceless content.toList

/-- What is filled in has no braces where the metadata hold none. -/
theorem braceless_of_mem_textFillings (sample : Sample) {metadata : Members}
    (braceless : BracelessMetadata metadata) :
    ∀ pair ∈ textFillings { sample with metadata := metadata },
      Braceless pair.1 ∧ Braceless pair.2 := by
  induction metadata with
  | nil => nofun
  | cons member rest ih =>
    obtain ⟨name, value⟩ := member
    obtain ⟨⟨here, text⟩, later⟩ := List.forall_mem_cons.1 braceless
    intro pair among
    rw [textFillings_cons, List.mem_append] at among
    rcases among with first | among
    · rw [Option.mem_toList, Option.map_eq_some_iff] at first
      obtain ⟨content, given, rfl⟩ := first
      exact ⟨here, text content given⟩
    · exact ih later pair among

/-- A template without braces but those of placeholders is filled in with a prompt and metadata
without braces by writing each placeholder as what it stands for. -/
theorem fill_eq_render (sample : Sample) {pieces : List Piece}
    (plain : ∀ piece ∈ pieces, piece.IsPlain) {prompt : String}
    (bracelessPrompt : Braceless prompt.toList) {metadata : Members}
    (braceless : BracelessMetadata metadata) (once : (metadata.map Prod.fst).Nodup) :
    fill (String.ofList (render placeholder pieces))
        (("prompt", prompt) :: Sample.textMetadata { sample with metadata := metadata }) =
      String.ofList (render (standsFor prompt.toList metadata) pieces) := by
  have all : ∀ pair ∈ ("prompt".toList, prompt.toList) ::
      textFillings { sample with metadata := metadata },
      Braceless pair.1 ∧ Braceless pair.2 := by
    have name : Braceless "prompt".toList := by decide
    exact List.forall_mem_cons.2 ⟨⟨name, bracelessPrompt⟩,
      braceless_of_mem_textFillings sample braceless⟩
  have unopened : ∀ pair ∈ ([] : List (List Char × List Char)), '\x7b' ∉ pair.2 := nofun
  have filled := fillIn_render plain unopened all
  rw [List.nil_append, valueOf_fillings sample once] at filled
  rw [fill, String.toList_ofList]
  exact congrArg String.ofList filled

/-- A message is put into a template without braces but those of placeholders by writing each
placeholder as what it stands for, all at once. The order of the metadata does not matter. -/
theorem dress_eq (sample : Sample) (message : Message) {pieces : List Piece}
    (plain : ∀ piece ∈ pieces, piece.IsPlain) (prompt : Braceless message.text.toList)
    (braceless : BracelessMetadata sample.metadata)
    (once : (sample.metadata.map Prod.fst).Nodup) :
    dress sample (String.ofList (render placeholder pieces)) message =
        message.withText (String.ofList
          (render (standsFor message.text.toList sample.metadata) pieces)) ∧
      ∀ order : Members, order.Perm sample.metadata →
        dress { sample with metadata := order } (String.ofList (render placeholder pieces))
            message =
          dress sample (String.ofList (render placeholder pieces)) message := by
  have filled := fill_eq_render sample plain prompt braceless once
  refine ⟨congrArg message.withText filled, fun order perm => congrArg message.withText ?_⟩
  have orderBraceless : BracelessMetadata order := fun member among =>
    braceless member (perm.mem_iff.1 among)
  have orderOnce : (order.map Prod.fst).Nodup := (perm.map Prod.fst).nodup_iff.2 once
  have same : standsFor message.text.toList order =
      standsFor message.text.toList sample.metadata := by
    funext name
    rw [standsFor, standsFor, Members.get?_of_perm once perm]
  rw [fill_eq_render sample plain prompt orderBraceless orderOnce, same]
  exact filled.symm

/-- A film with a genre, a year and a prompt of its own. -/
def film : Sample where
  input := "Heat"
  target := []
  metadata := [("genre", .text "drama"), ("prompt", .text "Ronin"), ("year", .int 1995)]

/-- A template for the review of a film, which names a reviewer that no film has. -/
def reviewPieces : List Piece :=
  [.slot "genre".toList, .char ',', .slot "year".toList, .char ',', .slot "critic".toList,
    .char ':', .slot "prompt".toList]

/-- The prompt is not looked for in the metadata, a number is not filled in, and a name that the
metadata have not stays, also with the metadata the other way round. -/
theorem dress_eq_film :
    dress film "\x7bgenre\x7d,\x7byear\x7d,\x7bcritic\x7d:\x7bprompt\x7d" (.ofUser "Heat") =
        .ofUser "drama,\x7byear\x7d,\x7bcritic\x7d:Heat" ∧
      dress { film with metadata := film.metadata.reverse }
          "\x7bgenre\x7d,\x7byear\x7d,\x7bcritic\x7d:\x7bprompt\x7d" (.ofUser "Heat") =
        .ofUser "drama,\x7byear\x7d,\x7bcritic\x7d:Heat" := by
  have plain : ∀ piece ∈ reviewPieces, piece.IsPlain := by decide
  have prompt : Braceless (Message.ofUser "Heat").text.toList := by decide
  have braceless : BracelessMetadata film.metadata := by
    simp only [BracelessMetadata, film, List.forall_mem_cons]
    decide
  have once : (film.metadata.map Prod.fst).Nodup := by decide
  obtain ⟨filled, ordered⟩ := dress_eq film (.ofUser "Heat") plain prompt braceless once
  exact ⟨filled, (ordered _ (List.reverse_perm _)).trans filled⟩

end Attempt

end Assay
