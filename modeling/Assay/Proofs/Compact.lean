import Assay.Json.Printer
import Assay.Proofs.Cutting
import Assay.Proofs.Members
import Assay.Proofs.Reading

/-!
# Written values are read back

What is written of a value without blanks is read as that value (`parse_compact`), if it holds no
float, its integers fit in 64 bits, the names of its objects are in order and it does not nest too
deep. A value is followed by a comma, a bracket or a brace where it stands inside of another one,
and a number ends only where no further digit, point or exponent follows, so that each kind of value
is read back in front of every text with which no number goes on (`Recovers`).

What is written neither starts nor ends with a blank or a comma. Commas may stand inside: in a text
of the value, and after each item and member but the last.
-/
namespace Assay.Json

open Number (isDigit)

/-! ## Integers -/

/-- A number does not go on with a text that starts with no digit, no point and no mark of an
exponent. -/
def EndsNumber (rest : List Char) : Prop :=
  ∀ c ∈ rest.head?, isDigit c = false ∧ c ≠ '.' ∧ c ≠ 'e' ∧ c ≠ 'E'

/-- More digits name no smaller number. -/
theorem le_ofDigitChars (digits : List Char) (number : Nat) :
    number ≤ Nat.ofDigitChars 10 digits number := by
  have split : Nat.ofDigitChars 10 digits number =
      10 ^ digits.length * number + Nat.ofDigitChars 10 digits 0 :=
    Nat.ofDigitChars_eq_ofDigitChars_zero
  have power : 0 < 10 ^ digits.length := Nat.pow_pos (by decide)
  have grows : number ≤ 10 ^ digits.length * number := Nat.le_mul_of_pos_left number power
  omega

/-- Digits are absorbed where the number that they name fits in 64 bits. -/
theorem absorb_of_fits {digits : List Char} {number : Nat}
    (fits : Nat.ofDigitChars 10 digits number < Number.word64Bound) :
    absorb number digits = (Nat.ofDigitChars 10 digits number, []) := by
  induction digits generalizing number with
  | nil => rfl
  | cons c digits ih =>
    rw [Nat.ofDigitChars_cons] at fits ⊢
    have next := Nat.lt_of_le_of_lt (le_ofDigitChars digits _) fits
    rw [absorb, if_pos next]
    exact ih fits

/-- The digits of a number are digits. -/
theorem isDigit_of_mem_toDigits {n : Nat} {c : Char} (member : c ∈ Nat.toDigits 10 n) :
    isDigit c = true :=
  Nat.isDigit_of_mem_toDigits (by decide) (by decide) member

/-- A number other than zero is not written with a zero in front. -/
theorem head?_toDigits_ne {n : Nat} (positive : 0 < n) : (Nat.toDigits 10 n).head? ≠ some '0' := by
  induction n using Nat.strongRecOn with
  | ind n ih =>
    by_cases small : n < 10
    · rw [Nat.toDigits_of_lt_base small, List.head?_cons, Ne, Option.some.injEq,
        Nat.digitChar_eq_zero]
      omega
    · have fewer := ih (n / 10) (by omega) (by omega)
      rw [Nat.toDigits_of_base_le (by decide) (by omega), List.head?_append]
      cases first : (Nat.toDigits 10 (n / 10)).head? with
      | none => exact absurd (List.head?_eq_none_iff.mp first) Nat.toDigits_ne_nil
      | some c =>
        rw [first] at fewer
        exact fewer

/-- The digits in front of a text that starts with none are its front of digits. -/
theorem span_toDigits {n : Nat} {rest : List Char} (ends : EndsNumber rest) :
    (Nat.toDigits 10 n ++ rest).takeWhile isDigit = Nat.toDigits 10 n ∧
      (Nat.toDigits 10 n ++ rest).dropWhile isDigit = rest := by
  have digits : ∀ c ∈ Nat.toDigits 10 n, isDigit c = true := fun _ => isDigit_of_mem_toDigits
  rw [List.takeWhile_append_of_pos digits, List.dropWhile_append_of_pos digits]
  cases rest with
  | nil => simp
  | cons c rest =>
    have stops : ¬isDigit c = true := Bool.eq_false_iff.mp (ends c rfl).1
    rw [List.takeWhile_cons_of_neg stops, List.dropWhile_cons_of_neg stops, List.append_nil]
    exact ⟨rfl, rfl⟩

/-- The digits of a number that fits are read as its whole digits. -/
theorem readNumber_toDigits {negative : Bool} {n : Nat} {rest : List Char}
    (fits : n < Number.word64Bound) (ends : EndsNumber rest) :
    readNumber negative (Nat.toDigits 10 n ++ rest) = readAfterWhole negative n 0 rest := by
  rcases Nat.eq_zero_or_pos n with rfl | positive
  · cases rest with
    | nil => rfl
    | cons c rest =>
      change (if isDigit c then _ else readAfterWhole negative 0 0 (c :: rest)) = _
      rw [(ends c rfl).1]
      rfl
  · have named := Nat.ofDigitChars_ten_toDigits (n := n)
    have absorbed : absorb 0 (Nat.toDigits 10 n) = (n, []) := by
      rw [absorb_of_fits (by rw [named]; exact fits), named]
    obtain ⟨whole, after⟩ := span_toDigits (n := n) ends
    have first := head?_toDigits_ne positive
    have digits : ∀ c ∈ Nat.toDigits 10 n, isDigit c = true := fun _ => isDigit_of_mem_toDigits
    cases written : Nat.toDigits 10 n with
    | nil => exact absurd written Nat.toDigits_ne_nil
    | cons c later =>
      rw [written] at absorbed whole after first digits
      rw [List.cons_append] at whole after ⊢
      have notZero : c ≠ '0' := fun zero => first (congrArg some zero)
      unfold readNumber
      split
      case h_1 none => contradiction
      case h_2 zero => exact absurd (List.cons.inj zero).1 notZero
      case h_3 same =>
        cases same
        rw [if_pos (digits c (List.mem_cons_self ..))]
        simp only [whole, after, absorbed, List.length_nil]

/-! ## Texts -/

/-- A character that is written by number is read back. -/
theorem escaped_control {c : Char} (control : c.toNat < 32) (text : List Char) :
    escaped ('u' :: '0' :: '0' :: Nat.digitChar (c.toNat / 16) ::
      Nat.digitChar (c.toNat % 16) :: text) = .ok (c, 5) := by
  have high := Number.hexDigit?_digitChar_lower (n := c.toNat / 16) (by omega)
  have low := Number.hexDigit?_digitChar_lower (n := c.toNat % 16) (by omega)
  have zero : Number.hexDigit? '0' = some 0 := rfl
  have unit : hexUnit ('0' :: '0' :: Nat.digitChar (c.toNat / 16) ::
      Nat.digitChar (c.toNat % 16) :: text) = .ok c.toNat := by
    simp only [hexUnit, List.take_succ_cons, List.take_zero, zero, high, low]
    congr 1
    omega
  have noSurrogate : ¬(0xDC00 ≤ c.toNat ∧ c.toNat ≤ 0xDFFF) := by omega
  have basic : c.toNat < 0xD800 ∨ 0xDBFF < c.toNat := by omega
  have named : numbered ('0' :: '0' :: Nat.digitChar (c.toNat / 16) ::
      Nat.digitChar (c.toNat % 16) :: text) = .ok (c, 5) := by
    simp only [numbered, unit, bind, Except.bind, if_neg noSurrogate, if_pos basic,
      Char.ofNat_toNat]
  exact named

/-- An escape in a text is the character that it names. -/
theorem readText_escape {named : Char} {taken : Nat} {text : List Char}
    (escape : escaped text = .ok (named, taken)) :
    readText 0 ('\\' :: text) =
      (do
        let (content, rest) ← readText taken text
        .ok (named :: content, rest)) := by
  rw [readText, if_neg (by decide), if_pos rfl, escape]
  rfl

/-- A character of a text is read back. -/
theorem readText_writeChar (c : Char) (text : List Char) :
    readText 0 (writeChar c ++ text) =
      (do
        let (content, rest) ← readText 0 text
        .ok (c :: content, rest)) := by
  unfold writeChar
  split
  case h_8 quote backslash _ _ _ _ _ =>
    split
    · next control =>
      exact readText_escape (escaped_control control text)
    · next printed =>
      rw [List.singleton_append, readText, if_neg quote, if_neg backslash, if_neg printed]
  all_goals rfl

/-- A text is read back up to its closing quote. -/
theorem readText_write (content rest : List Char) :
    readText 0 (content.flatMap writeChar ++ '"' :: rest) = .ok (content, rest) := by
  induction content with
  | nil => rfl
  | cons c content ih =>
    rw [List.flatMap_cons, List.append_assoc, readText_writeChar, ih]
    rfl

/-! ## What is written -/

/-- A value is read back from what is written of it, whatever follows that no number goes on
with. -/
def Recovers (depth : Nat) (value : Value) : Prop :=
  ∀ rest, EndsNumber rest → readValue depth (writeValue value ++ rest) = .ok (value, rest)

variable {depth : Nat}

/-- Null is read back. -/
theorem recovers_null (depth : Nat) : Recovers depth .null := by
  intro rest _
  unfold readValue
  rfl

/-- A truth is read back. -/
theorem recovers_bool (depth : Nat) (truth : Bool) : Recovers depth (.bool truth) := by
  intro rest _
  unfold readValue
  cases truth <;> rfl

/-- An integer that fits in 64 bits, with or without a sign, is read back. -/
theorem recovers_int (depth : Nat) {number : Int}
    (low : -(Number.word64Bound : Int) ≤ 2 * number) (high : number < Number.word64Bound) :
    Recovers depth (.int number) := by
  intro rest ends
  have other : ∀ c ∈ rest.head?, c ≠ '.' ∧ c ≠ 'e' ∧ c ≠ 'E' := fun c front => (ends c front).2
  cases number with
  | ofNat n =>
    have fits : n < Number.word64Bound := Int.ofNat_lt.mp high
    have whole : readNumber false (Nat.toDigits 10 n ++ rest) = readAfterWhole false n 0 rest :=
      readNumber_toDigits fits ends
    rw [readAfterWhole_of_other other, if_neg (Nat.lt_irrefl 0)] at whole
    cases written : Nat.toDigits 10 n with
    | nil => exact absurd written Nat.toDigits_ne_nil
    | cons c later =>
      have digit : isDigit c = true :=
        isDigit_of_mem_toDigits (n := n) (by rw [written]; exact List.mem_cons_self ..)
      have front := skip_cons (isSpace_of_isDigit digit) (later ++ rest)
      rw [written] at whole
      rw [writeValue, writeInt, written, List.cons_append, readValue_of_digit front digit]
      exact whole
  | negSucc n =>
    have fits : 2 * (n + 1) ≤ Number.word64Bound := by omega
    have whole : readNumber true (Nat.toDigits 10 (n + 1) ++ rest) =
        readAfterWhole true (n + 1) 0 rest := readNumber_toDigits (by omega) ends
    rw [readAfterWhole_of_other other, if_neg (Nat.lt_irrefl 0)] at whole
    have small : ¬(decide (n + 1 = 0) || decide (Number.word64Bound < 2 * (n + 1))) = true := by
      simp; omega
    rw [if_neg (by decide), if_neg small] at whole
    rw [writeValue, writeInt, List.cons_append]
    unfold readValue
    exact whole

/-- A text is read back. -/
theorem recovers_text (depth : Nat) (content : String) : Recovers depth (.text content) := by
  intro rest _
  have whole : readText 0 (content.toList.flatMap writeChar ++ '"' :: rest) =
      .ok (content.toList, rest) := readText_write content.toList rest
  have front : writeValue (.text content) ++ rest =
      '"' :: (content.toList.flatMap writeChar ++ '"' :: rest) := by
    simp [writeValue, writeText]
  rw [front]
  unfold readValue
  rw [skip_cons (by decide)]
  simp only [whole, bind, Except.bind, String.ofList_toList]

/-! ## Lists and objects -/

/-- No number goes on with a comma, a bracket or a brace. -/
theorem endsNumber_cons {c : Char} (mark : c ∈ [',', ']', '\x7d']) (rest : List Char) :
    EndsNumber (c :: rest) := by
  intro d front
  cases front
  simp only [List.mem_cons, List.not_mem_nil, or_false] at mark
  rcases mark with rfl | rfl | rfl <;> decide

/-- What is written after the first item of a list ends a number. -/
theorem endsNumber_writeItems (items : List Value) (rest : List Char) :
    EndsNumber (writeItems items ++ rest) := by
  cases items <;> exact endsNumber_cons (by decide) _

/-- What is written after the first member of an object ends a number. -/
theorem endsNumber_writeMembers (members : List (String × Value)) (rest : List Char) :
    EndsNumber (writeMembers members ++ rest) := by
  cases members <;> exact endsNumber_cons (by decide) _

/-- More is written of the items of a list after its first one than there are. -/
theorem length_lt_writeItems (items : List Value) : items.length < (writeItems items).length := by
  induction items with
  | nil => exact Nat.zero_lt_one
  | cons item items ih =>
    simp only [writeItems, List.length_append, List.length_cons]
    omega

/-- More is written of the members of an object after its first one than there are. -/
theorem length_lt_writeMembers (members : List (String × Value)) :
    members.length < (writeMembers members).length := by
  induction members with
  | nil => exact Nat.zero_lt_one
  | cons member members ih =>
    simp only [writeMembers, List.length_append, List.length_cons]
    omega

/-- The items of a list after its first one are read back. -/
theorem readItems_write {items : List Value} (each : ∀ item ∈ items, Recovers depth item)
    {fuel : Nat} (enough : items.length < fuel) (rest : List Char) :
    readItems (readValue depth) fuel (writeItems items ++ rest) = .ok (items, rest) := by
  obtain ⟨extra, rfl⟩ := Nat.exists_eq_add_of_lt enough
  induction items with
  | nil => exact readItems_eq_ok_iff.mpr (.inl ⟨rfl, skip_cons rfl rest⟩)
  | cons item items ih =>
    obtain ⟨here, later⟩ := List.forall_mem_cons.mp each
    have first := here (writeItems items ++ rest) (endsNumber_writeItems items rest)
    have others := ih later (by omega)
    have comma : skip (writeItems (item :: items) ++ rest) =
        ',' :: (writeValue item ++ (writeItems items ++ rest)) := by
      rw [writeItems, List.append_assoc, List.cons_append, skip_cons rfl]
    refine readItems_eq_ok_iff.mpr (.inr ⟨item, items, _, _, rfl, comma, first, ?_⟩)
    rw [← others]
    congr 1
    simp only [List.length_cons]
    omega

/-- A list of values that are read back is read back. -/
theorem recovers_list {items : List Value} (each : ∀ item ∈ items, Recovers depth item) :
    Recovers (depth + 1) (.list items) := by
  intro rest _
  have whole : ∃ text, writeValue (.list items) ++ rest = '[' :: text ∧
      readList (readValue depth) text = .ok (items, rest) := by
    cases items with
    | nil => exact ⟨_, rfl, readList_eq_ok_iff.mpr (.inl ⟨rfl, skip_cons rfl rest⟩)⟩
    | cons item items =>
      obtain ⟨here, later⟩ := List.forall_mem_cons.mp each
      have first := here (writeItems items ++ rest) (endsNumber_writeItems items rest)
      have enough : items.length < (writeItems items ++ rest).length := by
        rw [List.length_append]
        exact Nat.lt_add_right _ (length_lt_writeItems items)
      refine ⟨writeValue item ++ (writeItems items ++ rest), ?_, readList_eq_ok_iff.mpr
        (.inr ⟨item, items, _, rfl, first, readItems_write later enough rest⟩)⟩
      rw [writeValue, List.append_assoc, List.cons_append]
  obtain ⟨text, front, read⟩ := whole
  rw [front]
  unfold readValue
  rw [skip_cons rfl]
  simp only [read, bind, Except.bind]

/-- A member is read back after its opening quote, up to what follows its value. -/
theorem readMember_write {member : String × Value} (held : Recovers depth member.2)
    {rest : List Char} (ends : EndsNumber rest) :
    readMember (readValue depth) (member.1.toList.flatMap writeChar ++
      '"' :: ':' :: (writeValue member.2 ++ rest)) = .ok (member, rest) := by
  have named := readText_write member.1.toList (':' :: (writeValue member.2 ++ rest))
  exact readMember_eq_ok_iff.mpr ⟨member.1.toList, _, writeValue member.2 ++ rest, named,
    skip_cons rfl _, held rest ends, String.ofList_toList.symm⟩

/-- The members of an object after its first one are read back. -/
theorem readMembers_write {members : List (String × Value)}
    (each : ∀ member ∈ members, Recovers depth member.2) {fuel : Nat}
    (enough : members.length < fuel) (rest : List Char) :
    readMembers (readValue depth) fuel (writeMembers members ++ rest) = .ok (members, rest) := by
  obtain ⟨extra, rfl⟩ := Nat.exists_eq_add_of_lt enough
  induction members with
  | nil => exact readMembers_eq_ok_iff.mpr (.inl ⟨rfl, skip_cons rfl rest⟩)
  | cons member members ih =>
    obtain ⟨here, later⟩ := List.forall_mem_cons.mp each
    have first := readMember_write here (endsNumber_writeMembers members rest)
    have others := ih later (by omega)
    have written : writeMembers (member :: members) ++ rest =
        ',' :: '"' :: (member.1.toList.flatMap writeChar ++
          '"' :: ':' :: (writeValue member.2 ++ (writeMembers members ++ rest))) := by
      simp [writeMembers, writeText]
    rw [written]
    refine readMembers_eq_ok_iff.mpr (.inr ⟨member, members, _, _, _, rfl, skip_cons rfl _,
      skip_cons rfl _, first, ?_⟩)
    rw [← others]
    congr 1
    simp only [List.length_cons]
    omega

/-- An object of values that are read back is read as its members inserted one after the other. -/
theorem readValue_object {members : Members}
    (each : ∀ member ∈ members, Recovers depth member.2) (rest : List Char) :
    readValue (depth + 1) (writeValue (.object members) ++ rest) =
      .ok (Value.ofMembers members, rest) := by
  have whole : ∃ text, writeValue (.object members) ++ rest = '\x7b' :: text ∧
      readObject (readValue depth) text = .ok (members, rest) := by
    cases members with
    | nil => exact ⟨_, rfl, readObject_eq_ok_iff.mpr (.inl ⟨rfl, skip_cons rfl rest⟩)⟩
    | cons member members =>
      obtain ⟨here, later⟩ := List.forall_mem_cons.mp each
      have first := readMember_write here (endsNumber_writeMembers members rest)
      have enough : members.length < (writeMembers members ++ rest).length := by
        rw [List.length_append]
        exact Nat.lt_add_right _ (length_lt_writeMembers members)
      refine ⟨'"' :: (member.1.toList.flatMap writeChar ++
        '"' :: ':' :: (writeValue member.2 ++ (writeMembers members ++ rest))), ?_,
        readObject_eq_ok_iff.mpr (.inr ⟨member, members, _, _, rfl, skip_cons rfl _, first,
          readMembers_write later enough rest⟩)⟩
      simp [writeValue, writeText]
  obtain ⟨text, front, read⟩ := whole
  rw [front]
  unfold readValue
  rw [skip_cons rfl]
  simp only [read, bind, Except.bind]

/-- An object with its names in order, of values that are read back, is read back. -/
theorem recovers_object {members : Members} (ordered : members.Ordered)
    (each : ∀ member ∈ members, Recovers depth member.2) :
    Recovers (depth + 1) (.object members) := by
  intro rest _
  have rebuilt : Value.ofMembers members = .object members :=
    congrArg Value.object (Members.insertAll_of_ordered ordered)
  rw [readValue_object each rest, rebuilt]

/-! ## Values -/

/-- A value without floats, with integers that fit in 64 bits and the names of objects in order,
in which lists and objects nest to a given depth. -/
inductive Value.IsPlain : (depth : Nat) → Value → Prop
  | null {depth : Nat} : IsPlain depth .null
  | bool {depth : Nat} (truth : Bool) : IsPlain depth (.bool truth)
  | int {depth : Nat} {number : Int} (low : -(Number.word64Bound : Int) ≤ 2 * number)
    (high : number < Number.word64Bound) : IsPlain depth (.int number)
  | text {depth : Nat} (content : String) : IsPlain depth (.text content)
  | list {depth : Nat} {items : List Value} (each : ∀ item ∈ items, IsPlain depth item) :
    IsPlain (depth + 1) (.list items)
  | object {depth : Nat} {members : Members} (ordered : members.Ordered)
    (each : ∀ member ∈ members, IsPlain depth member.2) : IsPlain (depth + 1) (.object members)

/-- A plain value is read back. -/
theorem Value.IsPlain.recovers {value : Value} (plain : value.IsPlain depth) :
    Recovers depth value := by
  induction plain with
  | null => exact recovers_null _
  | bool truth => exact recovers_bool _ truth
  | int low high => exact recovers_int _ low high
  | text content => exact recovers_text _ content
  | list _ each => exact recovers_list each
  | object ordered _ each => exact recovers_object ordered each

/-- What is written of a plain value without blanks is read as that value. -/
theorem parse_compact {value : Value} (plain : value.IsPlain depthLimit) :
    parse (compact value) = .ok value := by
  have read := plain.recovers [] nofun
  rw [parse_eq_ok_iff]
  refine ⟨[], ?_, fun c among => nomatch among⟩
  rw [List.append_nil] at read
  rw [compact, String.toList_ofList]
  exact read

/-! ## The characters of what is written -/

/-- A character is neither a blank nor a comma. -/
def IsSolid (c : Char) : Prop := Text.isBlank c = false ∧ c ≠ ','

instance (c : Char) : Decidable (IsSolid c) := inferInstanceAs (Decidable (_ ∧ _))

/-- A digit is neither a blank nor a comma. -/
theorem isSolid_of_isDigit {c : Char} (digit : isDigit c = true) : IsSolid c := by
  have bounds : 48 ≤ c.toNat ∧ c.toNat ≤ 57 := by
    simpa [isDigit, Char.le_def, UInt32.le_iff_toNat_le] using digit
  refine ⟨?_, fun comma => absurd digit (by rw [comma]; decide)⟩
  simp [Text.isBlank]
  omega

/-- No blank and no comma is written of an integer. -/
theorem isSolid_of_mem_writeInt {number : Int} {c : Char} (member : c ∈ writeInt number) :
    IsSolid c := by
  cases number with
  | ofNat n => exact isSolid_of_isDigit (isDigit_of_mem_toDigits member)
  | negSucc n =>
    rcases List.mem_cons.mp member with rfl | digit
    · decide
    · exact isSolid_of_isDigit (isDigit_of_mem_toDigits digit)

/-- What is written of an integer is not empty. -/
theorem writeInt_ne_nil (number : Int) : writeInt number ≠ [] := by
  cases number with
  | ofNat n => exact Nat.toDigits_ne_nil
  | negSucc n => exact List.cons_ne_nil _ _

/-- What is written of a plain value does not start with a blank or a comma. -/
theorem exists_writeValue_eq_cons {value : Value} (plain : value.IsPlain depth) :
    ∃ c later, writeValue value = c :: later ∧ IsSolid c := by
  cases plain with
  | null => exact ⟨_, _, rfl, by decide⟩
  | bool truth => cases truth <;> exact ⟨_, _, rfl, by decide⟩
  | int low high =>
    obtain ⟨c, later, written⟩ := List.exists_cons_of_ne_nil (writeInt_ne_nil _)
    exact ⟨c, later, written, isSolid_of_mem_writeInt (written ▸ List.mem_cons_self ..)⟩
  | text content => exact ⟨_, _, rfl, by decide⟩
  | @list _ items each => cases items <;> exact ⟨_, _, rfl, by decide⟩
  | @object _ members ordered each => cases members <;> exact ⟨_, _, rfl, by decide⟩

/-- A list ends with its bracket. -/
theorem exists_writeItems_eq_append (items : List Value) :
    ∃ before, writeItems items = before ++ [']'] := by
  induction items with
  | nil => exact ⟨[], rfl⟩
  | cons item items ih =>
    obtain ⟨before, same⟩ := ih
    exact ⟨',' :: writeValue item ++ before, by rw [writeItems, same, List.append_assoc]⟩

/-- An object ends with its brace. -/
theorem exists_writeMembers_eq_append (members : List (String × Value)) :
    ∃ before, writeMembers members = before ++ ['\x7d'] := by
  induction members with
  | nil => exact ⟨[], rfl⟩
  | cons member members ih =>
    obtain ⟨before, same⟩ := ih
    exact ⟨',' :: writeText member.1 ++ ':' :: writeValue member.2 ++ before,
      by simp [writeMembers, same]⟩

/-- What is written of a plain value does not end with a blank or a comma. -/
theorem exists_writeValue_eq_concat {value : Value} (plain : value.IsPlain depth) :
    ∃ before c, writeValue value = before ++ [c] ∧ IsSolid c := by
  cases plain with
  | null => exact ⟨['n', 'u', 'l'], 'l', rfl, by decide⟩
  | bool truth =>
    cases truth with
    | false => exact ⟨['f', 'a', 'l', 's'], 'e', rfl, by decide⟩
    | true => exact ⟨['t', 'r', 'u'], 'e', rfl, by decide⟩
  | @int _ number low high =>
    obtain ⟨before, c, written⟩ := (List.eq_nil_or_concat _).resolve_left (writeInt_ne_nil number)
    rw [List.concat_eq_append] at written
    exact ⟨before, c, written, isSolid_of_mem_writeInt (written ▸ List.mem_concat_self ..)⟩
  | text content => exact ⟨_, _, rfl, by decide⟩
  | @list _ items each =>
    cases items with
    | nil => exact ⟨['['], ']', rfl, by decide⟩
    | cons item items =>
      obtain ⟨before, same⟩ := exists_writeItems_eq_append items
      exact ⟨'[' :: writeValue item ++ before, ']',
        by rw [writeValue, same, List.append_assoc], by decide⟩
  | @object _ members ordered each =>
    cases members with
    | nil => exact ⟨['\x7b'], '\x7d', rfl, by decide⟩
    | cons member members =>
      obtain ⟨before, same⟩ := exists_writeMembers_eq_append members
      exact ⟨'\x7b' :: writeText member.1 ++ ':' :: writeValue member.2 ++ before, '\x7d',
        by simp [writeValue, same], by decide⟩

/-- What is written of a plain value has no blanks at its ends. -/
theorem trim_compact {value : Value} (plain : value.IsPlain depth) :
    Text.trim (compact value).toList = (compact value).toList := by
  rw [compact, String.toList_ofList, Text.trim_eq_self_iff]
  constructor
  · obtain ⟨c, later, written, solid, _⟩ := exists_writeValue_eq_cons plain
    rw [written]
    exact List.dropWhile_cons_of_neg (Bool.eq_false_iff.mp solid)
  · obtain ⟨before, c, written, solid, _⟩ := exists_writeValue_eq_concat plain
    rw [written]
    exact List.rdropWhile_concat_neg _ _ _ (Bool.eq_false_iff.mp solid)

/-- A comma in what is written of a character is that character. -/
theorem eq_comma_of_mem_writeChar {c : Char} (member : ',' ∈ writeChar c) : c = ',' := by
  have digit (n : Nat) (small : n < 16) : ',' ≠ Nat.digitChar n := by
    intro same
    have named := Number.hexDigit?_digitChar_lower small
    rw [← same] at named
    contradiction
  unfold writeChar at member
  split at member
  case h_8 =>
    split at member
    · next control =>
      have high := digit (c.toNat / 16) (by omega)
      have low := digit (c.toNat % 16) (by omega)
      simp [high, low] at member
    · exact (List.mem_singleton.mp member).symm
  all_goals simp at member

/-- A text without a comma is written without one. -/
theorem comma_notMem_writeText {content : String} (whole : ',' ∉ content.toList) :
    ',' ∉ writeText content := by
  intro member
  simp only [writeText, List.cons_append, List.mem_cons, List.mem_append, List.mem_flatMap,
    List.not_mem_nil, or_false] at member
  rcases member with mark | ⟨c, among, inside⟩ | mark
  · contradiction
  · exact whole (eq_comma_of_mem_writeChar inside ▸ among)
  · contradiction

end Assay.Json
