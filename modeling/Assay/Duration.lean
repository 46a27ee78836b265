import Assay.Number.Binary64

/-!
# Durations

A duration is a whole number of nanoseconds. A float number of seconds is rounded to the nearest
nanosecond, with a tie going to the even one, and is no duration when it is negative, not a
number, or has more seconds than fit in 64 bits. Arithmetic on durations is exact, and whether
there is room for what it comes to is said by `Fits`.
-/
namespace Assay

/-- A span of time. -/
structure Duration where
  nanoseconds : Nat
deriving DecidableEq

namespace Duration

/-- A number of milliseconds. -/
def ofMilliseconds (count : Nat) : Duration := ⟨count * 1000000⟩

/-- A number of seconds. -/
def ofSeconds (count : Nat) : Duration := ⟨count * 1000000000⟩

/-- The duration of a float number of seconds. -/
def ofFloatSeconds? (seconds : Float) : Option Duration :=
  match Number.read seconds with
  | .finite negative significand exponent =>
    let (num, den) := Number.ratio significand exponent
    if negative && num ≠ 0 then none
    else if num / den < Number.word64Bound then some ⟨Number.roundEven (num * 1000000000) den⟩
    else none
  | _ => none

/-- The whole seconds of a duration. -/
def seconds (span : Duration) : Nat := span.nanoseconds / 1000000000

/-- The nanoseconds of a duration past its whole seconds. -/
def subsecond (span : Duration) : Nat := span.nanoseconds % 1000000000

/-- The whole milliseconds of a duration. -/
def milliseconds (span : Duration) : Nat := span.nanoseconds / 1000000

/-- A duration as a float number of seconds. -/
def toFloatSeconds (span : Duration) : Float := Number.nearest span.nanoseconds 1000000000

/-- How much longer a duration is than an earlier one. -/
def since (later earlier : Duration) : Duration := ⟨later.nanoseconds - earlier.nanoseconds⟩

/-- There is room for a duration: its whole seconds fit in 64 bits. -/
def Fits (span : Duration) : Prop := span.seconds < Number.word64Bound

instance (span : Duration) : Decidable span.Fits := Nat.decLt ..

/-- Twice a duration, for which there may be no room. -/
def double (span : Duration) : Duration := ⟨2 * span.nanoseconds⟩

instance : Min Duration := ⟨fun a b => ⟨min a.nanoseconds b.nanoseconds⟩⟩

instance : Add Duration := ⟨fun a b => ⟨a.nanoseconds + b.nanoseconds⟩⟩

/-- What was added to a duration is how much longer it became. -/
theorem since_add (earlier span : Duration) : (earlier + span).since earlier = span := by
  cases earlier with
  | mk earlier =>
    cases span with
    | mk span =>
      change Duration.mk (earlier + span - earlier) = ⟨span⟩
      rw [Nat.add_sub_cancel_left]

end Duration
end Assay
