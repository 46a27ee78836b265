import Assay.Endpoint.Chat
import Assay.Proofs.Decoding
import Assay.Proofs.Members
import Mathlib.Logic.Relation

/-!
# Members that a record does not declare

A record that is written as an object may have more members than the record declares. A layout says
where in a value the records are, and `Layout.Adds` puts one more member into one of them, at any
place and at any depth. A decoder overlooks such members when it comes to the same result with them,
be that a value or a mismatch; lists, fields that may be null and records are made so that their
decoders overlook what those of their parts do. The readers of a reply are put together in this way,
so a reply may say more than is asked for (`Reply.ofJson_of_adds`).
-/
namespace Assay.Json

/-- Where a value holds records. -/
inductive Layout where
  /-- Nothing in the value is read as a record. -/
  | plain
  /-- The value is a list, each item of which has the given layout. -/
  | list (item : Layout)
  /-- The value is a record with the given fields, in their declared order. -/
  | record (fields : List (String × Layout))

/-- A value and the same value with one more member in one of its records, under a name that the
record does not declare. -/
inductive Layout.Adds : Layout → Value → Value → Prop
  /-- The member is put into the record itself. -/
  | member {fields : List (String × Layout)} {name : String} (before after : Members)
    (added : Value) (undeclared : fields.lookup name = none) :
    Adds (.record fields) (.object (before ++ after)) (.object (before ++ (name, added) :: after))
  /-- The member is put into a declared member of a record. -/
  | inMember {fields : List (String × Layout)} {name : String} {layout : Layout}
    {value more : Value} (before after : Members) (declared : fields.lookup name = some layout)
    (inner : Adds layout value more) :
    Adds (.record fields) (.object (before ++ (name, value) :: after))
      (.object (before ++ (name, more) :: after))
  /-- The member is put into a field of a record that is written as a list. -/
  | inField {fields : List (String × Layout)} {name : String} {layout : Layout}
    {value more : Value} (items : List Value) (place : Nat)
    (declared : fields[place]? = some (name, layout)) (there : items[place]? = some value)
    (inner : Adds layout value more) :
    Adds (.record fields) (.list items) (.list (items.set place more))
  /-- The member is put into an item of a list. -/
  | inItem {layout : Layout} {value more : Value} (items : List Value) (place : Nat)
    (there : items[place]? = some value) (inner : Adds layout value more) :
    Adds (.list layout) (.list items) (.list (items.set place more))

namespace Layout.Adds

variable {layout : Layout} {value more : Value}

/-- A member is added to something else than null. -/
theorem ne_null (adds : layout.Adds value more) : value ≠ .null ∧ more ≠ .null := by
  cases adds <;> exact ⟨nofun, nofun⟩

variable {fields : List (String × Layout)} {name : String}

/-- A declared field of a record holds what it held before, or that with a member added. -/
theorem field? (adds : (Layout.record fields).Adds value more) {place : Nat}
    (declared : fields[place]? = some (name, layout)) (named : fields.lookup name = some layout) :
    more.field? place name = value.field? place name ∨
      ∃ old new, value.field? place name = some old ∧ more.field? place name = some new ∧
        layout.Adds old new := by
  cases adds with
  | @member _ other before after added undeclared =>
    have differs : other ≠ name := by
      rintro rfl
      rw [undeclared] at named
      contradiction
    left
    change Members.get? name _ = Members.get? name _
    rw [Members.get?_append, Members.get?_append, Members.get?, if_neg differs]
  | @inMember _ other _ old new before after isField inner =>
    change Members.get? name _ = Members.get? name _ ∨ ∃ _ _,
      Members.get? name _ = _ ∧ Members.get? name _ = _ ∧ _
    rw [Members.get?_append, Members.get?_append, Members.get?, Members.get?]
    by_cases same : other = name
    · subst same
      obtain rfl : _ = layout := Option.some.inj (isField.symm.trans named)
      -- Of members with one name the first counts, which may stand before the one that changes.
      cases before.get? other with
      | some first => exact .inl rfl
      | none => exact .inr ⟨old, new, by simp, by simp, inner⟩
    · rw [if_neg same, if_neg same]
      exact .inl rfl
  | @inField _ _ _ old new items other isField there inner =>
    change (items.set other new)[place]? = items[place]? ∨
      ∃ _ _, items[place]? = _ ∧ (items.set other new)[place]? = _ ∧ _
    by_cases same : other = place
    · subst same
      rw [isField] at declared
      cases declared
      have replaced : (items.set other new)[other]? = some new := by
        rw [List.getElem?_set_self', there]
        rfl
      exact .inr ⟨old, new, there, replaced, inner⟩
    · exact .inl (List.getElem?_set_ne same)

end Layout.Adds

/-! ## Decoders that overlook members -/

variable {α : Type} {layout : Layout}

/-- A decoder comes to the same result with members that a record does not declare. -/
def Layout.Overlooked (layout : Layout) (decode : Decoder α) : Prop :=
  ∀ ⦃value more : Value⦄, layout.Adds value more → decode more = decode value

namespace Layout

/-- Where there are no records, nothing is added. -/
theorem overlooked_plain (decode : Decoder α) : plain.Overlooked decode :=
  fun _ _ adds => nomatch adds

/-- A decoder overlooks members also where there may be null. -/
theorem Overlooked.nullable {decode : Decoder α} (overlooked : layout.Overlooked decode) :
    layout.Overlooked (Decode.nullable decode) := by
  intro value more adds
  rw [Decode.nullable_of_ne_null decode adds.ne_null.1,
    Decode.nullable_of_ne_null decode adds.ne_null.2, overlooked adds]

/-- Items are read alike when one of them is replaced by another that is read alike. -/
theorem items_set {decode : Decoder α} {items : List Value} {place : Nat} {value more : Value}
    (there : items[place]? = some value) (same : decode more = decode value) :
    Decode.items decode (items.set place more) = Decode.items decode items := by
  induction items generalizing place with
  | nil => rfl
  | cons first rest ih =>
    cases place with
    | zero =>
      obtain rfl := Option.some.inj there
      rw [List.set_cons_zero, Decode.items, Decode.items, same]
    | succ place =>
      rw [List.set_cons_succ, Decode.items, Decode.items, ih there]

/-- A list is read without the members that its items do not declare. -/
theorem Overlooked.list {decode : Decoder α} (overlooked : layout.Overlooked decode) :
    (Layout.list layout).Overlooked (Decode.list decode) := by
  intro value more adds
  cases adds with
  | inItem items place there inner => exact items_set there (overlooked inner)

section

variable {fields : List (String × Layout)} {name : String}

/-- A declared field of a record is read alike with a member added. -/
theorem Overlooked.optional {decode : Decoder α} (overlooked : layout.Overlooked decode)
    {value more : Value} (adds : (record fields).Adds value more) {place : Nat}
    (declared : fields[place]? = some (name, layout)) (named : fields.lookup name = some layout) :
    Decode.optional decode (more.field? place name) =
      Decode.optional decode (value.field? place name) := by
  rcases adds.field? declared named with same | ⟨old, new, before, after, inner⟩
  · rw [same]
  · rw [before, after, Decode.optional, Decode.optional, overlooked inner]

/-- A declared member of an object is read alike with a member added. -/
theorem Overlooked.byName {decode : Decoder α} (overlooked : layout.Overlooked decode) (place : Nat)
    (declared : fields[place]? = some (name, layout)) (named : fields.lookup name = some layout)
    {members more : Members} (adds : (record fields).Adds (.object members) (.object more)) :
    more.field? name decode = members.field? name decode :=
  overlooked.optional adds declared named

/-- A field of a record that is written as a list is read alike with a member added. -/
theorem Overlooked.byPlace {decode : Decoder α} (overlooked : layout.Overlooked decode)
    (place : Nat) (declared : fields[place]? = some (name, layout))
    (named : fields.lookup name = some layout) {items more : List Value}
    (adds : (record fields).Adds (.list items) (.list more)) (row : Row) :
    { row with items := more }.item? place decode = { row with items }.item? place decode :=
  overlooked.optional adds declared named

/-- Members are added to the objects in a list, which stays as long as it is. -/
theorem Adds.length_eq {items more : List Value}
    (adds : (record fields).Adds (.list items) (.list more)) : more.length = items.length := by
  cases adds with
  | inField items place declared there inner => exact List.length_set

/-- A record is read without undeclared members if its fields are, in both ways to write it. -/
theorem Overlooked.record {title : String} {count : Nat} {tellsFields : Bool}
    {ofMembers : Members → Except Mismatch α} {ofRow : Row → Except Mismatch α}
    (readsMembers : ∀ {members more : Members},
      (record fields).Adds (.object members) (.object more) → ofMembers more = ofMembers members)
    (readsRow : ∀ {items more : List Value}, (record fields).Adds (.list items) (.list more) →
      ∀ row : Row, ofRow { row with items := more } = ofRow { row with items }) :
    (record fields).Overlooked (Decode.record title count tellsFields ofMembers ofRow) := by
  intro value more adds
  cases value with
  | object members =>
    obtain ⟨others, rfl⟩ : ∃ others, more = .object others := by
      cases adds <;> exact ⟨_, rfl⟩
    exact readsMembers adds
  | list items =>
    obtain ⟨others, rfl⟩ : ∃ others, more = .list others := by
      cases adds
      exact ⟨_, rfl⟩
    have fields := readsRow adds ⟨title, count, tellsFields, items⟩
    have ends : Row.ends ⟨title, count, tellsFields, others⟩ =
        Row.ends ⟨title, count, tellsFields, items⟩ := by
      simp only [Row.ends, adds.length_eq]
    change (ofRow _ >>= fun value => Row.ends _ >>= fun _ => .ok value) =
      (ofRow _ >>= fun value => Row.ends _ >>= fun _ => .ok value)
    rw [fields, ends]
  | _ => nomatch adds

end

end Layout

end Assay.Json

namespace Assay.Endpoint

open Json Json.Layout

/-! ## Replies -/

/-- The fields of the function of a tool call. Its arguments are any value, of which nothing is
left out. -/
def ReplyFunction.layout : Layout := .record [("name", .plain), ("arguments", .plain)]

/-- The fields of a tool call. -/
def ReplyCall.layout : Layout :=
  .record [("id", .plain), ("function", ReplyFunction.layout), ("type", .plain)]

/-- The fields of the message of a choice. -/
def ReplyMessage.layout : Layout :=
  .record [("role", .plain), ("content", .plain), ("tool_calls", .list ReplyCall.layout)]

/-- The fields of a choice. -/
def ReplyChoice.layout : Layout :=
  .record [("index", .plain), ("message", ReplyMessage.layout), ("finish_reason", .plain)]

/-- The fields of token counts. -/
def ReplyUsage.layout : Layout :=
  .record [("prompt_tokens", .plain), ("completion_tokens", .plain), ("total_tokens", .plain)]

/-- The fields of a reply. -/
def Reply.layout : Layout :=
  .record [("id", .plain), ("model", .plain), ("choices", .list ReplyChoice.layout),
    ("usage", ReplyUsage.layout)]

/-- The function of a tool call is read without further members. -/
theorem ReplyFunction.overlooked : ReplyFunction.layout.Overlooked ReplyFunction.ofJson := by
  have text := overlooked_plain (Decode.nullable Decode.text)
  have any := overlooked_plain (Decode.nullable Decode.any)
  refine .record (fun adds => ?_) (fun adds row => ?_)
  · simp only [text.byName 0 rfl rfl adds, any.byName 1 rfl rfl adds]
  · simp only [text.byPlace 0 rfl rfl adds, any.byPlace 1 rfl rfl adds]

/-- A tool call is read without further members. -/
theorem ReplyCall.overlooked : ReplyCall.layout.Overlooked ReplyCall.ofJson := by
  have text := overlooked_plain (Decode.nullable Decode.text)
  have function := ReplyFunction.overlooked.nullable
  refine .record (fun adds => ?_) (fun adds row => ?_)
  · simp only [text.byName 0 rfl rfl adds, function.byName 1 rfl rfl adds,
      text.byName 2 rfl rfl adds]
  · simp only [text.byPlace 0 rfl rfl adds, function.byPlace 1 rfl rfl adds,
      text.byPlace 2 rfl rfl adds]

/-- The message of a choice is read without further members. -/
theorem ReplyMessage.overlooked : ReplyMessage.layout.Overlooked ReplyMessage.ofJson := by
  have text := overlooked_plain (Decode.nullable Decode.text)
  have toolCalls := ReplyCall.overlooked.list.nullable
  refine .record (fun adds => ?_) (fun adds row => ?_)
  · simp only [text.byName 0 rfl rfl adds, text.byName 1 rfl rfl adds,
      toolCalls.byName 2 rfl rfl adds]
  · simp only [text.byPlace 0 rfl rfl adds, text.byPlace 1 rfl rfl adds,
      toolCalls.byPlace 2 rfl rfl adds]

/-- A choice is read without further members. -/
theorem ReplyChoice.overlooked : ReplyChoice.layout.Overlooked ReplyChoice.ofJson := by
  have index := overlooked_plain (Decode.nullable Decode.word32)
  have message := ReplyMessage.overlooked
  have finishReason := overlooked_plain (Decode.nullable Decode.text)
  refine .record (fun adds => ?_) (fun adds row => ?_)
  · simp only [index.byName 0 rfl rfl adds, message.byName 1 rfl rfl adds,
      finishReason.byName 2 rfl rfl adds]
  · simp only [index.byPlace 0 rfl rfl adds, message.byPlace 1 rfl rfl adds,
      finishReason.byPlace 2 rfl rfl adds]

/-- Token counts are read without further members. -/
theorem ReplyUsage.overlooked : ReplyUsage.layout.Overlooked ReplyUsage.ofJson := by
  have count := overlooked_plain (Decode.nullable Decode.word64)
  refine .record (fun adds => ?_) (fun adds row => ?_)
  · simp only [count.byName 0 rfl rfl adds, count.byName 1 rfl rfl adds,
      count.byName 2 rfl rfl adds]
  · simp only [count.byPlace 0 rfl rfl adds, count.byPlace 1 rfl rfl adds,
      count.byPlace 2 rfl rfl adds]

/-- A reply is read without further members. -/
theorem Reply.overlooked : Reply.layout.Overlooked Reply.ofJson := by
  have text := overlooked_plain (Decode.nullable Decode.text)
  have choices := ReplyChoice.overlooked.list
  have usage := ReplyUsage.overlooked.nullable
  refine .record (fun adds => ?_) (fun adds row => ?_)
  · simp only [text.byName 0 rfl rfl adds, text.byName 1 rfl rfl adds,
      choices.byName 2 rfl rfl adds, usage.byName 3 rfl rfl adds]
  · simp only [text.byPlace 0 rfl rfl adds, text.byPlace 1 rfl rfl adds,
      choices.byPlace 2 rfl rfl adds, usage.byPlace 3 rfl rfl adds]

/-- A value with any number of further members in any of its records is the same reply, or fails to
be one for the same reason, and stands for the same output. -/
theorem Reply.ofJson_of_adds {value more : Value}
    (adds : Relation.ReflTransGen Reply.layout.Adds value more) :
    Reply.ofJson more = Reply.ofJson value ∧
      ∀ asked, Chat.read asked more = Chat.read asked value := by
  have same : Reply.ofJson more = Reply.ofJson value := by
    induction adds with
    | refl => rfl
    | tail _ last ih => exact (Reply.overlooked last).trans ih
  refine ⟨same, fun asked => ?_⟩
  rw [Chat.read, Chat.read, same]

/-- A reply with one tool call, where the function and the reply have the given members as well. -/
def searching (inFunction inReply : Members) : Value :=
  .object ([("choices", .list [
    .object [("message", .object [("tool_calls", .list [
      .object [("function", .object (("name", .text "search") :: inFunction))]])])]])] ++ inReply)

/-- A reply with a choice that has a negative index, and the given members before it. -/
def misnumbered (inChoice : Members) : Value :=
  .object [("choices", .list [.object (inChoice ++ [("index", .int (-1))])])]

/-- A tool call comes of a reply that says more in two places, and so does a mismatch. -/
theorem Reply.ofJson_of_adds_searching :
    Relation.ReflTransGen Reply.layout.Adds (searching [] [])
        (searching [("strict", .bool true)] [("created", .int 17)]) ∧
      Reply.ofJson (searching [("strict", .bool true)] [("created", .int 17)]) =
        .ok ⟨none, none, [⟨none, ⟨none, none,
          some [⟨none, some ⟨some "search", none⟩, none⟩]⟩, some "stop"⟩], none⟩ ∧
      Relation.ReflTransGen Reply.layout.Adds (misnumbered []) (misnumbered [("delta", .null)]) ∧
      Reply.ofJson (misnumbered [("delta", .null)]) = .error (.outOfRange (-1) "u32") := by
  have inFunction : Reply.layout.Adds (searching [] []) (searching [("strict", .bool true)] []) :=
    .inMember [] _ rfl <| .inItem _ 0 rfl <| .inMember [] _ rfl <| .inMember [] _ rfl <|
      .inItem _ 0 rfl <| .inMember [] _ rfl <| .member [_] [] _ rfl
  have inReply : Reply.layout.Adds (searching [("strict", .bool true)] [])
      (searching [("strict", .bool true)] [("created", .int 17)]) :=
    .member [_] [] _ rfl
  have inChoice : Reply.layout.Adds (misnumbered []) (misnumbered [("delta", .null)]) :=
    .inMember [] _ rfl <| .inItem _ 0 rfl <| .member [] [_] _ rfl
  have both := (Relation.ReflTransGen.single inFunction).tail inReply
  have one := Relation.ReflTransGen.single inChoice
  exact ⟨both, (Reply.ofJson_of_adds both).1.trans rfl, one,
    (Reply.ofJson_of_adds one).1.trans rfl⟩

end Assay.Endpoint
