import Assay.Json.Value
import Mathlib.Data.List.Pairwise
import Mathlib.Data.String.Basic

/-!
# Members of an object

What an object holds under a name, and which names it has, after members were inserted into it
one after the other: of the members with one name the last one counts, and a name that none of
them has keeps what it had. An object that is put together by insertions has its names in order,
each of them once.
-/
namespace Assay.Json.Members

/-- The value of the last member with a name in a list of members. -/
def last? (name : String) (more : List (String × Value)) : Option Value :=
  (more.filter (·.1 = name)).getLast?.map Prod.snd

/-- The last member of two lists is that of the second list, if it has one. -/
theorem last?_append (name : String) (first second : List (String × Value)) :
    last? name (first ++ second) = (last? name second).or (last? name first) := by
  simp only [last?, List.filter_append, List.getLast?_append, Option.map_or]

/-- The last member of a list is its first one only if no other one has the name. -/
theorem last?_cons (name key : String) (value : Value) (rest : List (String × Value)) :
    last? name ((key, value) :: rest) =
      (last? name rest).or (if key = name then some value else none) := by
  have single : last? name [(key, value)] = if key = name then some value else none := by
    by_cases same : key = name <;> simp [last?, same]
  rw [← List.singleton_append, last?_append, single]

/-- The last member of fields is the last one with its name that is present. -/
theorem last?_present_cons (name key : String) (value? : Option Value)
    (rest : List (String × Option Value)) :
    last? name (present ((key, value?) :: rest)) =
      (last? name (present rest)).or (if key = name then value? else none) := by
  cases value? with
  | none =>
    have absent : present ((key, none) :: rest) = present rest := rfl
    rw [absent, ite_self, Option.or_none]
  | some value =>
    have there : present ((key, some value) :: rest) = (key, value) :: present rest := rfl
    rw [there, last?_cons]

/-- Fields of other names have no member with a name. -/
theorem last?_present_of_notMem {fields : List (String × Option Value)} {name : String}
    (other : name ∉ fields.map Prod.fst) : last? name (present fields) = none := by
  induction fields with
  | nil => rfl
  | cons field rest ih =>
    simp only [List.map_cons, List.mem_cons, not_or] at other
    rw [last?_present_cons, ih other.2, if_neg (Ne.symm other.1)]
    rfl

/-- Where each name comes once, the member with the name of a field is what the field holds. -/
theorem last?_present_of_mem {fields : List (String × Option Value)}
    (once : (fields.map Prod.fst).Nodup) {name : String} {value? : Option Value}
    (among : (name, value?) ∈ fields) : last? name (present fields) = value? := by
  induction fields with
  | nil => contradiction
  | cons field rest ih =>
    obtain ⟨alone, later⟩ := List.nodup_cons.1 once
    rw [last?_present_cons]
    rcases List.mem_cons.1 among with rfl | there
    · rw [last?_present_of_notMem alone, if_pos rfl, Option.none_or]
    · have differs : field.1 ≠ name := fun same => alone (same ▸ List.mem_map_of_mem there)
      rw [ih later there, if_neg differs, Option.or_none]

/-- What all values of fields have in common holds of the members that are present. -/
theorem forall_mem_present {property : Value → Prop} {fields : List (String × Option Value)}
    (each : ∀ field ∈ fields, ∀ value ∈ field.2, property value) :
    ∀ member ∈ present fields, property member.2 := by
  intro member among
  obtain ⟨⟨name, value?⟩, listed, made⟩ := List.mem_filterMap.1 among
  obtain ⟨value, held, rfl⟩ := Option.map_eq_some_iff.1 made
  exact each _ listed value held

/-- There is a last member with a name exactly when a member has the name. -/
theorem last?_ne_none_iff (name : String) (more : List (String × Value)) :
    last? name more ≠ none ↔ name ∈ more.map Prod.fst := by
  induction more with
  | nil => simp [last?]
  | cons member rest ih =>
    obtain ⟨key, value⟩ := member
    rw [last?_cons, List.map_cons, List.mem_cons, ← ih]
    by_cases same : key = name
    · cases last? name rest <;> simp [same]
    · rw [if_neg same, Option.or_none]
      simp [Ne.symm same]

/-- Of members that follow others, those count whose names the others do not have. -/
theorem get?_append (name : String) (front back : Members) :
    Members.get? name (front ++ back) = (front.get? name).or (back.get? name) := by
  induction front with
  | nil => rfl
  | cons member rest ih =>
    obtain ⟨key, value⟩ := member
    rw [List.cons_append, get?, get?, ih]
    split <;> rfl

/-- Members have a value under a name exactly when one of them has the name. -/
theorem get?_ne_none_iff (name : String) (members : Members) :
    members.get? name ≠ none ↔ name ∈ members.map Prod.fst := by
  induction members with
  | nil => simp [get?]
  | cons member rest ih =>
    obtain ⟨key, value⟩ := member
    rw [get?, List.map_cons, List.mem_cons]
    by_cases same : key = name
    · simp [same]
    · rw [if_neg same, ih]
      simp [Ne.symm same]

/-- Where each name comes once, a name has the value of the member with that name. -/
theorem get?_eq_some_iff {members : Members} (once : (members.map Prod.fst).Nodup) (name : String)
    (value : Value) : members.get? name = some value ↔ (name, value) ∈ members := by
  induction members with
  | nil => simp [get?]
  | cons member rest ih =>
    obtain ⟨key, first⟩ := member
    obtain ⟨alone, later⟩ := List.nodup_cons.1 once
    rw [get?, List.mem_cons, Prod.mk.injEq]
    by_cases same : key = name
    · subst same
      have notLater : (key, value) ∉ rest := fun among =>
        alone (List.mem_map.2 ⟨(key, value), among, rfl⟩)
      simp [notLater, eq_comm]
    · rw [if_neg same, ih later]
      simp [Ne.symm same]

/-- Where each name comes once, the order of the members does not matter to what is found. -/
theorem get?_of_perm {members order : Members} (once : (members.map Prod.fst).Nodup)
    (perm : order.Perm members) (name : String) : order.get? name = members.get? name := by
  have orderOnce : (order.map Prod.fst).Nodup := (perm.map Prod.fst).nodup_iff.2 once
  apply Option.ext
  intro value
  rw [get?_eq_some_iff orderOnce, get?_eq_some_iff once, perm.mem_iff]

/-- After insertions a name has the value that was inserted last, and what it had before if
nothing was inserted under it. -/
theorem get?_insertAll (members : Members) (more : List (String × Value)) (name : String) :
    (members.insertAll more).get? name = (last? name more).or (members.get? name) := by
  induction more generalizing members with
  | nil => rfl
  | cons member rest ih =>
    obtain ⟨key, value⟩ := member
    change ((members.insert key value).insertAll rest).get? name = _
    rw [ih, get?_insert, last?_cons, Option.or_assoc]
    by_cases same : key = name <;> simp [same]

/-- A member after an insertion is the one that was inserted or was there before. -/
theorem mem_insert_of_mem {name : String} {value : Value} {members : Members}
    {member : String × Value} (among : member ∈ members.insert name value) :
    member = (name, value) ∨ member ∈ members := by
  induction members with
  | nil => exact .inl (List.mem_singleton.1 among)
  | cons first rest ih =>
    obtain ⟨key, old⟩ := first
    rw [insert] at among
    split at among
    · rcases List.mem_cons.1 among with same | later
      · exact .inl same
      · exact .inr (List.mem_cons_of_mem _ later)
    · split at among
      · exact List.mem_cons.1 among
      · rcases List.mem_cons.1 among with same | later
        · exact .inr (List.mem_cons.2 (.inl same))
        · exact (ih later).imp id (List.mem_cons_of_mem _)

instance (members : Members) : Decidable members.Ordered :=
  inferInstanceAs (Decidable (List.Pairwise _ members))

/-- An insertion keeps names in order. -/
theorem Ordered.insert {members : Members} (ordered : members.Ordered) (name : String)
    (value : Value) : (members.insert name value).Ordered := by
  induction members with
  | nil => exact List.pairwise_singleton ..
  | cons first rest ih =>
    obtain ⟨key, old⟩ := first
    obtain ⟨before, others⟩ := List.pairwise_cons.1 ordered
    rw [Members.insert]
    by_cases same : name = key
    · rw [if_pos same]
      subst same
      exact List.pairwise_cons.2 ⟨before, others⟩
    · rw [if_neg same]
      by_cases less : name < key
      · rw [if_pos less]
        refine List.pairwise_cons.2 ⟨fun member among => ?_, ordered⟩
        rcases List.mem_cons.1 among with rfl | later
        · exact less
        · exact lt_trans less (before member later)
      · rw [if_neg less]
        refine List.pairwise_cons.2 ⟨fun member among => ?_, ih others⟩
        rcases mem_insert_of_mem among with rfl | later
        · exact lt_of_le_of_ne (not_lt.1 less) (Ne.symm same)
        · exact before member later

/-- Insertions keep names in order. -/
theorem Ordered.insertAll {members : Members} (ordered : members.Ordered)
    (more : List (String × Value)) : (members.insertAll more).Ordered := by
  induction more generalizing members with
  | nil => exact ordered
  | cons member rest ih => exact ih (ordered.insert member.1 member.2)

/-- An insertion under a name that comes after all others puts the member at the end. -/
theorem insert_of_lt {name : String} {value : Value} {members : Members}
    (last : ∀ member ∈ members, member.1 < name) :
    members.insert name value = members ++ [(name, value)] := by
  induction members with
  | nil => rfl
  | cons first rest ih =>
    obtain ⟨key, old⟩ := first
    obtain ⟨before, later⟩ := List.forall_mem_cons.1 last
    rw [insert, if_neg (ne_of_gt before), if_neg (not_lt_of_gt before), ih later]
    rfl

/-- Members whose names go on in order are put at the end one after the other. -/
theorem insertAll_of_ordered {members more : Members} (ordered : (members ++ more).Ordered) :
    members.insertAll more = members ++ more := by
  induction more generalizing members with
  | nil => exact (List.append_nil _).symm
  | cons member more ih =>
    have last : ∀ earlier ∈ members, earlier.1 < member.1 := fun earlier among =>
      (List.pairwise_append.1 ordered).2.2 earlier among member (List.mem_cons_self ..)
    have split : members ++ member :: more = (members ++ [member]) ++ more := by simp
    rw [split] at ordered ⊢
    change (members.insert member.1 member.2).insertAll more = _
    rw [insert_of_lt last, ih ordered]

end Assay.Json.Members
