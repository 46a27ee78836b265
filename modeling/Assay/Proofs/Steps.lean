/-!
# Steps that may fail

What is known of the parts of a computation with an error or a value as its result, when the result
of the whole is known.
-/
namespace Assay

variable {ε ε' α β : Type}

/-- A value that two steps come to is what the second makes of the value of the first. -/
theorem exists_of_bind_eq_ok {first : Except ε α} {next : α → Except ε β} {result : β}
    (both : (first >>= next) = .ok result) :
    ∃ value, first = .ok value ∧ next value = .ok result := by
  cases first with
  | error fault => contradiction
  | ok value => exact ⟨value, rfl, both⟩

/-- A result that comes about without an error is made of a value. -/
theorem exists_of_map_eq_ok {outcome : Except ε α} {make : α → β} {result : β}
    (made : outcome.map make = .ok result) :
    ∃ value, outcome = .ok value ∧ make value = result := by
  cases outcome with
  | error error => contradiction
  | ok value => exact ⟨value, rfl, Except.ok.inj made⟩

/-- A value that a result has when its error is left out is its value. -/
theorem eq_ok_of_toOption_eq_some {outcome : Except ε α} {value : α}
    (found : outcome.toOption = some value) : outcome = .ok value := by
  cases outcome with
  | error fault => contradiction
  | ok _ => exact congrArg Except.ok (Option.some.inj found)

/-- A change to the values of a result keeps its error. -/
theorem map_eq_error_iff {f : α → β} {result : Except ε α} {error : ε} :
    result.map f = .error error ↔ result = .error error := by
  cases result <;> simp [Except.map]

/-- An error that is made of another one stands for it. -/
theorem exists_of_mapError_eq_error {f : ε → ε'} {result : Except ε α} {made : ε'}
    (failed : result.mapError f = .error made) :
    ∃ error, result = .error error ∧ f error = made := by
  cases result with
  | error error => exact ⟨error, rfl, Except.error.inj failed⟩
  | ok value => contradiction

/-- A change to the error of a result keeps its values. -/
theorem mapError_eq_ok_iff {f : ε → ε'} {result : Except ε α} {value : α} :
    result.mapError f = .ok value ↔ result = .ok value := by
  cases result with
  | error fault => exact ⟨nofun, nofun⟩
  | ok found =>
    constructor <;> intro same <;> exact congrArg Except.ok (Except.ok.inj same)

end Assay
