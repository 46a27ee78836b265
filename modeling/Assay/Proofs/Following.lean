import Assay.Proofs.Reading

/-!
# Reading does not look ahead

What is read from the front of a text is the same whatever the text goes on with: a text, a list and
an object end with a character of their own, and a number, which does not, ends at the latest where
something else is next (`readValue_append`). So no front of a text that is a value is a value as
well, unless it is a number (`isNumber_of_parse_front`).
-/
namespace Assay.Json

open Number (isDigit)

variable {depth fuel : Nat} {text rest : List Char} {value : Value} {items : List Value}
  {members : List (String × Value)}

/-! ## Blanks, words and digits -/

/-- What is left without blanks goes on with what follows. -/
theorem skip_append {c : Char} {tail : List Char} (front : skip text = c :: tail)
    (more : List Char) : skip (text ++ more) = c :: (tail ++ more) := by
  rw [skip, List.dropWhile_append, ← skip, front]
  rfl

/-- A word is read whatever follows. -/
theorem expect_append {word : List Char} (read : expect word text = .ok rest) (more : List Char) :
    expect word (text ++ more) = .ok (rest ++ more) := by
  rw [expect_eq_ok_iff] at read ⊢
  rw [read, List.append_assoc]

/-- Digits that end before a text does end there whatever follows. -/
theorem span_append (stops : text.dropWhile isDigit ≠ []) (more : List Char) :
    (text ++ more).takeWhile isDigit = text.takeWhile isDigit ∧
      (text ++ more).dropWhile isDigit = text.dropWhile isDigit ++ more := by
  induction text with
  | nil => contradiction
  | cons c text ih =>
    by_cases digit : isDigit c = true
    · rw [List.dropWhile_cons_of_pos digit] at stops
      obtain ⟨taken, left⟩ := ih stops
      simp only [List.cons_append, List.takeWhile_cons_of_pos digit,
        List.dropWhile_cons_of_pos digit, taken, left, and_self]
    · simp only [List.cons_append, List.takeWhile_cons_of_neg digit,
        List.dropWhile_cons_of_neg digit, and_self]

/-! ## Numbers -/

section

variable {negative : Bool} {digits dropped : Nat} {exponent : Int}

/-- A reader that takes nothing of a text comes to the same value in front of every text. -/
def TakesNothing (reader : List Char → Except Fault (Value × List Char)) : Prop :=
  ∀ text value rest, reader text = .ok (value, rest) →
    rest = text ∧ ∀ other, reader other = .ok (value, other)

/-- A value that is there takes nothing of a text. -/
theorem takesNothing_ok (value : Value) : TakesNothing fun text => .ok (value, text) := by
  intro text found rest read
  cases read
  exact ⟨rfl, fun _ => rfl⟩

/-- A float takes nothing of a text. -/
theorem takesNothing_realOf (negative : Bool) (digits : Nat) (exponent : Int) :
    TakesNothing (realOf negative digits exponent) := by
  intro text value rest read
  unfold realOf at read ⊢
  cases scaled : scale (UInt64.ofNat digits).toFloat 8 exponent with
  | none =>
    rw [scaled] at read
    contradiction
  | some x =>
    rw [scaled] at read
    exact takesNothing_ok _ _ _ _ read

/-- Of two readers that take nothing of a text, either takes nothing. -/
theorem TakesNothing.ite {first second : List Char → Except Fault (Value × List Char)} {p : Prop}
    [Decidable p] (whenTrue : TakesNothing first) (whenFalse : TakesNothing second) :
    TakesNothing fun text => if p then first text else second text := by
  by_cases holds : p
  · simp only [if_pos holds]
    exact whenTrue
  · simp only [if_neg holds]
    exact whenFalse

/-- A sign is taken from the front of a text that goes on after it, whatever follows. -/
theorem sign_append (goesOn : (Number.sign text).2 ≠ []) (more : List Char) :
    Number.sign (text ++ more) = ((Number.sign text).1, (Number.sign text).2 ++ more) := by
  cases text with
  | nil => contradiction
  | cons c text =>
    by_cases minus : c = '-'
    · rw [minus]
      rfl
    · by_cases plus : c = '+'
      · rw [plus]
        rfl
      · have unsigned : ∀ text, Number.sign (c :: text) = (false, c :: text) := by
          intro text
          unfold Number.sign
          split
          · next same => exact absurd (List.cons.inj same).1 minus
          · next same => exact absurd (List.cons.inj same).1 plus
          · rfl
        rw [List.cons_append, unsigned, unsigned, List.cons_append]

/-- An exponent that ends before a text does is read whatever follows. -/
theorem readExponent_append (read : readExponent negative digits exponent text = .ok (value, rest))
    (ends : rest ≠ []) (more : List Char) :
    readExponent negative digits exponent (text ++ more) = .ok (value, rest ++ more) := by
  unfold readExponent at read ⊢
  cases after : (Number.sign text).2 with
  | nil =>
    simp only [after] at read
    contradiction
  | cons c later =>
    rw [sign_append (by rw [after]; exact List.cons_ne_nil _ _)]
    simp only [after, List.cons_append] at read ⊢
    split at read
    · contradiction
    · next digit =>
      rw [if_neg digit]
      -- Both ways to end leave the text after the digits of the exponent.
      split at read
      · next shift named =>
        obtain ⟨same, other⟩ := takesNothing_realOf _ _ _ _ _ _ read
        obtain ⟨taken, left⟩ := span_append (same ▸ ends) more
        rw [List.cons_append] at taken left
        rw [taken, left, named, same]
        exact other _
      · next beyond named =>
        split at read
        · contradiction
        · next small =>
          cases read
          obtain ⟨taken, left⟩ := span_append ends more
          rw [List.cons_append] at taken left
          rw [taken, left, named]
          exact if_neg small

/-- A number without point and exponent takes nothing after its whole digits. -/
theorem takesNothing_whole (negative : Bool) (digits dropped : Nat) :
    TakesNothing fun text =>
      if 0 < dropped then realOf negative digits dropped text
      else if !negative then .ok (.int digits, text)
      else if digits = 0 || Number.word64Bound < 2 * digits then realOf true digits 0 text
      else .ok (.int (-(digits : Int)), text) :=
  (takesNothing_realOf negative digits dropped).ite
    ((takesNothing_ok _).ite ((takesNothing_realOf true digits 0).ite (takesNothing_ok _)))

/-- A point and an exponent after the whole digits of a number are read whatever follows. -/
theorem readAfterWhole_point_append
    (read : readAfterWhole negative digits dropped ('.' :: text) = .ok (value, rest))
    (ends : rest ≠ []) (more : List Char) :
    readAfterWhole negative digits dropped ('.' :: (text ++ more)) = .ok (value, rest ++ more) := by
  simp only [readAfterWhole] at read ⊢
  cases next : text.dropWhile isDigit with
  | nil =>
    rw [next] at read
    split at read
    · contradiction
    · exact absurd (takesNothing_realOf _ _ _ _ _ _ read).1 ends
  | cons c later =>
    obtain ⟨taken, left⟩ := span_append (by rw [next]; exact List.cons_ne_nil _ _) more
    rw [next] at read left
    rw [taken, left]
    split at read
    · contradiction
    · next some =>
      rw [if_neg some]
      split at read
      case h_1 same =>
        cases same
        exact readExponent_append read ends more
      case h_2 same =>
        cases same
        exact readExponent_append read ends more
      case h_3 lower upper =>
        obtain ⟨rfl, other⟩ := takesNothing_realOf _ _ _ _ _ _ read
        rw [List.cons_append]
        split
        · next same => exact absurd (congrArg (· :: later) (List.cons.inj same).1) (lower later)
        · next same => exact absurd (congrArg (· :: later) (List.cons.inj same).1) (upper later)
        · exact other _

/-- What follows the whole digits of a number is read whatever follows that. -/
theorem readAfterWhole_append
    (read : readAfterWhole negative digits dropped text = .ok (value, rest)) (ends : rest ≠ [])
    (more : List Char) :
    readAfterWhole negative digits dropped (text ++ more) = .ok (value, rest ++ more) := by
  by_cases other : ∀ c ∈ text.head?, c ≠ '.' ∧ c ≠ 'e' ∧ c ≠ 'E'
  · rw [readAfterWhole_of_other other] at read
    obtain ⟨rfl, same⟩ := takesNothing_whole negative digits dropped _ _ _ read
    have head : (rest ++ more).head? = rest.head? := List.head?_append_of_ne_nil rest ends
    rw [readAfterWhole_of_other (by rw [head]; exact other)]
    exact same _
  · cases text with
    | nil => exact absurd nofun other
    | cons c text =>
      by_cases point : c = '.'
      · rw [point] at read ⊢
        exact readAfterWhole_point_append read ends more
      · by_cases lower : c = 'e'
        · rw [lower] at read ⊢
          exact readExponent_append read ends more
        · by_cases upper : c = 'E'
          · rw [upper] at read ⊢
            exact readExponent_append read ends more
          · refine absurd (fun d front => ?_) other
            cases front
            exact ⟨point, lower, upper⟩

/-- A number that ends before a text does goes on after its whole digits. -/
theorem ne_nil_of_readAfterWhole
    (read : readAfterWhole negative digits dropped text = .ok (value, rest)) (ends : rest ≠ []) :
    text ≠ [] := by
  rintro rfl
  rw [readAfterWhole_of_other (by simp)] at read
  exact ends (takesNothing_whole negative digits dropped _ _ _ read).1

/-- A number that ends before a text does is read whatever follows. -/
theorem readNumber_append (read : readNumber negative text = .ok (value, rest)) (ends : rest ≠ [])
    (more : List Char) : readNumber negative (text ++ more) = .ok (value, rest ++ more) := by
  unfold readNumber at read
  split at read
  case h_1 => contradiction
  case h_2 after =>
    split at read
    case h_1 c later =>
      split at read
      · contradiction
      · next stops =>
        have goOn := readAfterWhole_append read ends more
        simp only [List.cons_append, readNumber, if_neg stops] at goOn ⊢
        exact goOn
    case h_2 => exact absurd rfl (ne_nil_of_readAfterWhole read ends)
  case h_3 c after notZero =>
    split at read
    · next digit =>
      have goesOn := ne_nil_of_readAfterWhole read ends
      obtain ⟨taken, left⟩ := span_append goesOn more
      have goOn := readAfterWhole_append read ends more
      rw [List.cons_append] at taken left ⊢
      unfold readNumber
      split
      case h_1 none => contradiction
      case h_2 zero => exact absurd (List.cons.inj zero).1 notZero
      case h_3 same =>
        cases same
        rw [if_pos digit]
        simp only [taken, left]
        exact goOn
    · contradiction

end

/-! ## Texts -/

/-- Four digits are read whatever follows. -/
theorem hexUnit_append {unit : Nat} (read : hexUnit text = .ok unit) (more : List Char) :
    hexUnit (text ++ more) = .ok unit ∧ (text ++ more).drop 4 = text.drop 4 ++ more := by
  have long : 4 ≤ text.length := by
    unfold hexUnit at read
    split at read
    case h_1 a b c d four =>
      have length := congrArg List.length four
      rw [List.length_take] at length
      simp only [List.length_cons, List.length_nil] at length
      omega
    case h_2 => split at read <;> contradiction
  have taken : (text ++ more).take 4 = text.take 4 := List.take_append_of_le_length long
  refine ⟨?_, List.drop_append_of_le_length long⟩
  unfold hexUnit at read ⊢
  rw [taken]
  split at read
  case h_1 =>
    split at read
    · exact read
    · contradiction
  case h_2 => split at read <;> contradiction

/-- An escape by number is read whatever follows. -/
theorem numbered_append {named : Char × Nat} (read : numbered text = .ok named)
    (more : List Char) : numbered (text ++ more) = .ok named := by
  rw [numbered] at read ⊢
  obtain ⟨unit, first, goOn⟩ := exists_of_bind_eq_ok read
  obtain ⟨whole, left⟩ := hexUnit_append first more
  simp only [whole, left, bind, Except.bind] at goOn ⊢
  split at goOn
  · contradiction
  · next leading =>
    rw [if_neg leading]
    split at goOn
    · next single =>
      rw [if_pos single]
      exact goOn
    · next paired =>
      rw [if_neg paired]
      generalize text.drop 4 = rest at goOn
      split at goOn
      case h_1 => contradiction
      case h_2 after =>
        split at goOn
        case h_1 => contradiction
        case h_2 second =>
          obtain ⟨low, last, within⟩ := exists_of_bind_eq_ok goOn
          simp only [List.cons_append, (hexUnit_append last more).1]
          split at within
          · contradiction
          · next trailing =>
            rw [if_neg trailing]
            exact within
        case h_3 => contradiction
      case h_3 => contradiction

/-- An escape is read whatever follows. -/
theorem escaped_append {named : Char × Nat} (read : escaped text = .ok named) (more : List Char) :
    escaped (text ++ more) = .ok named := by
  cases text with
  | nil => contradiction
  | cons c text =>
    rw [List.cons_append, escaped] at *
    split at read
    · exact read
    · split at read
      · next byNumber =>
        rw [if_pos byNumber]
        exact numbered_append read more
      · contradiction

/-- A text up to its closing quote is read whatever follows. -/
theorem readText_append {passed : Nat} {content : List Char}
    (read : readText passed text = .ok (content, rest)) (more : List Char) :
    readText passed (text ++ more) = .ok (content, rest ++ more) := by
  induction text generalizing passed content with
  | nil => 
    unfold readText at read
    contradiction
  | cons c text ih =>
    rw [List.cons_append]
    cases passed with
    | succ passed => exact ih read
    | zero =>
      rw [readText] at read ⊢
      split at read
      · next closed =>
        cases read
        rw [if_pos closed]
      · next within =>
        rw [if_neg within]
        split at read
        · next backslash =>
          rw [if_pos backslash]
          obtain ⟨⟨named, taken⟩, first, goOn⟩ := exists_of_bind_eq_ok read
          obtain ⟨⟨later, left⟩, others, same⟩ := exists_of_bind_eq_ok goOn
          cases same
          simp only [escaped_append first more, ih others, bind, Except.bind]
        · next plain =>
          rw [if_neg plain]
          split at read
          · contradiction
          · next printed =>
            rw [if_neg printed]
            obtain ⟨⟨later, left⟩, others, same⟩ := exists_of_bind_eq_ok read
            cases same
            simp only [ih others, bind, Except.bind]

/-! ## Values -/

/-- Values in which lists and objects nest to a given depth are read whatever follows, unless they
are numbers with which the text ends. -/
def Steady (depth : Nat) : Prop :=
  ∀ {text rest value}, readValue depth text = .ok (value, rest) → rest ≠ [] ∨ ¬value.IsNumber →
    ∀ more, readValue depth (text ++ more) = .ok (value, rest ++ more)

/-- There are no items in nothing. -/
theorem ne_nil_of_readItems (read : readItems (readValue depth) fuel text = .ok (items, rest)) :
    text ≠ [] := by
  rintro rfl
  cases fuel <;> contradiction

/-- There are no members in nothing. -/
theorem ne_nil_of_readMembers
    (read : readMembers (readValue depth) fuel text = .ok (members, rest)) : text ≠ [] := by
  rintro rfl
  cases fuel <;> contradiction

/-- The items of a list are read whatever follows. -/
theorem readItems_append (steady : Steady depth) {more : List Char} {enough : Nat}
    (read : readItems (readValue depth) fuel text = .ok (items, rest)) (fits : fuel ≤ enough) :
    readItems (readValue depth) enough (text ++ more) = .ok (items, rest ++ more) := by
  induction fuel generalizing text items enough with
  | zero => contradiction
  | succ fuel ih =>
    obtain ⟨extra, rfl⟩ := Nat.exists_eq_add_of_lt fits
    rw [readItems_eq_ok_iff] at read ⊢
    rcases read with ⟨none, closed⟩ | ⟨item, later, after, left, same, comma, first, others⟩
    · exact .inl ⟨none, skip_append closed more⟩
    · have goesOn : left ≠ [] := ne_nil_of_readItems others
      exact .inr ⟨item, later, after ++ more, left ++ more, same, skip_append comma more,
        steady first (.inl goesOn) more, ih others (Nat.le_add_right fuel extra)⟩

/-- A list is read whatever follows. -/
theorem readList_append (steady : Steady depth)
    (read : readList (readValue depth) text = .ok (items, rest)) (more : List Char) :
    readList (readValue depth) (text ++ more) = .ok (items, rest ++ more) := by
  rw [readList_eq_ok_iff] at read ⊢
  rcases read with ⟨none, closed⟩ | ⟨item, later, left, same, first, others⟩
  · exact .inl ⟨none, skip_append closed more⟩
  · have goesOn : left ≠ [] := ne_nil_of_readItems others
    have longer : left.length ≤ (left ++ more).length := by
      rw [List.length_append]
      exact Nat.le_add_right _ _
    exact .inr ⟨item, later, left ++ more, same, steady first (.inl goesOn) more,
      readItems_append steady others longer⟩

/-- A member that ends before a text does is read whatever follows. -/
theorem readMember_append (steady : Steady depth) {member : String × Value}
    (read : readMember (readValue depth) text = .ok (member, rest)) (ends : rest ≠ [])
    (more : List Char) :
    readMember (readValue depth) (text ++ more) = .ok (member, rest ++ more) := by
  rw [readMember_eq_ok_iff] at read ⊢
  obtain ⟨content, between, after, named, colon, held, same⟩ := read
  exact ⟨content, between ++ more, after ++ more, readText_append named more,
    skip_append colon more, steady held (.inl ends) more, same⟩

/-- The members of an object are read whatever follows. -/
theorem readMembers_append (steady : Steady depth) {more : List Char} {enough : Nat}
    (read : readMembers (readValue depth) fuel text = .ok (members, rest))
    (fits : fuel ≤ enough) :
    readMembers (readValue depth) enough (text ++ more) = .ok (members, rest ++ more) := by
  induction fuel generalizing text members enough with
  | zero => contradiction
  | succ fuel ih =>
    obtain ⟨extra, rfl⟩ := Nat.exists_eq_add_of_lt fits
    rw [readMembers_eq_ok_iff] at read ⊢
    rcases read with ⟨none, closed⟩ |
      ⟨member, later, after, front, left, same, comma, quote, first, others⟩
    · exact .inl ⟨none, skip_append closed more⟩
    · have goesOn : left ≠ [] := ne_nil_of_readMembers others
      exact .inr ⟨member, later, after ++ more, front ++ more, left ++ more, same,
        skip_append comma more, skip_append quote more, readMember_append steady first goesOn more,
        ih others (Nat.le_add_right fuel extra)⟩

/-- An object is read whatever follows. -/
theorem readObject_append (steady : Steady depth)
    (read : readObject (readValue depth) text = .ok (members, rest)) (more : List Char) :
    readObject (readValue depth) (text ++ more) = .ok (members, rest ++ more) := by
  rw [readObject_eq_ok_iff] at read ⊢
  rcases read with ⟨none, closed⟩ | ⟨member, later, front, left, same, quote, first, others⟩
  · exact .inl ⟨none, skip_append closed more⟩
  · have goesOn : left ≠ [] := ne_nil_of_readMembers others
    have longer : left.length ≤ (left ++ more).length := by
      rw [List.length_append]
      exact Nat.le_add_right _ _
    exact .inr ⟨member, later, front ++ more, left ++ more, same, skip_append quote more,
      readMember_append steady first goesOn more, readMembers_append steady others longer⟩

/-- Values are read whatever follows if those one level deeper in them are. -/
theorem steady_of_inner (inner : ∀ shallower, depth = shallower + 1 → Steady shallower) :
    Steady depth := by
  intro text rest value read ends more
  unfold readValue at read
  split at read
  case h_1 => contradiction
  case h_2 front =>
    obtain ⟨left, word, made⟩ := exists_of_bind_eq_ok read
    cases made
    simp only [readValue, skip_append front more, expect_append word more, bind, Except.bind]
  case h_3 front =>
    obtain ⟨left, word, made⟩ := exists_of_bind_eq_ok read
    cases made
    simp only [readValue, skip_append front more, expect_append word more, bind, Except.bind]
  case h_4 front =>
    obtain ⟨left, word, made⟩ := exists_of_bind_eq_ok read
    cases made
    simp only [readValue, skip_append front more, expect_append word more, bind, Except.bind]
  case h_5 front =>
    have goesOn : rest ≠ [] := ends.resolve_right (not_not_intro (isNumber_of_readNumber read))
    simp only [readValue, skip_append front more]
    exact readNumber_append read goesOn more
  case h_6 front =>
    obtain ⟨⟨content, left⟩, whole, made⟩ := exists_of_bind_eq_ok read
    cases made
    simp only [readValue, skip_append front more, readText_append whole more, bind, Except.bind]
  case h_7 front =>
    split at read
    · contradiction
    · next shallower =>
      obtain ⟨⟨items, left⟩, whole, made⟩ := exists_of_bind_eq_ok read
      cases made
      have goOn := readList_append (inner shallower rfl) whole more
      simp only [readValue, skip_append front more, goOn, bind, Except.bind]
  case h_8 front =>
    split at read
    · contradiction
    · next shallower =>
      obtain ⟨⟨members, left⟩, whole, made⟩ := exists_of_bind_eq_ok read
      cases made
      have goOn := readObject_append (inner shallower rfl) whole more
      simp only [readValue, skip_append front more, goOn, bind, Except.bind]
  case h_9 c tail _ _ _ _ _ _ _ front =>
    split at read
    · next digit =>
      have goesOn : rest ≠ [] := ends.resolve_right (not_not_intro (isNumber_of_readNumber read))
      rw [readValue_of_digit (skip_append front more) digit]
      exact readNumber_append read goesOn more
    · contradiction

/-- A value is read whatever follows, unless it is a number with which the text ends. -/
theorem readValue_append (depth : Nat) : Steady depth := by
  induction depth with
  | zero => exact steady_of_inner fun _ same => absurd same (Nat.zero_ne_add_one _)
  | succ depth ih =>
    refine steady_of_inner fun shallower same => ?_
    cases same
    exact ih

/-- A text that is the front of a longer one, which is a value, is no value but a number. -/
theorem isNumber_of_parse_front {found : Value} {more : List Char}
    (front : parse (String.ofList text) = .ok found)
    (whole : readValue depthLimit (text ++ more) = .ok (value, [])) (some : more ≠ []) :
    found.IsNumber := by
  obtain ⟨back, read, _⟩ := parse_eq_ok_iff.mp front
  rw [String.toList_ofList] at read
  by_contra noNumber
  have goesOn := readValue_append depthLimit read (.inr noNumber) more
  rw [whole] at goesOn
  have nothing : [] = back ++ more := congrArg Prod.snd (Except.ok.inj goesOn)
  exact some (List.append_eq_nil_iff.mp nothing.symm).2

end Assay.Json
