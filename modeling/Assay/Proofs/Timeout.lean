import Assay.ModelArguments
import Assay.Proofs.Assignments
import Mathlib.Algebra.Order.Field.Power
import Mathlib.Tactic.Linarith
import Mathlib.Tactic.Ring

/-!
# Time limits

A time limit is written in seconds, as a float that has to be more than zero, and is kept as a whole
number of nanoseconds. The float is compared with zero before it is rounded, so one of half a
nanosecond or less passes and comes to no time at all. There is no other way to a limit that is not
positive: `ModelArguments.timeout_pos_iff` says so of every text that is accepted, by the exact
number that the text names last.
-/
namespace Assay

namespace Number

/-- The exact number that a float is, if it is finite. -/
def rational? (x : Float) : Option ℚ :=
  match read x with
  | .finite negative significand exponent =>
    some ((if negative then -1 else 1) * (significand * 2 ^ exponent))
  | _ => none

/-- A rounded quotient is zero when the quotient is at most a half, of which the even neighbour is
zero. -/
theorem roundEven_pos_iff {num den : Nat} (positive : 0 < den) :
    0 < roundEven num den ↔ den < 2 * num := by
  constructor
  · intro rounded
    by_contra small
    have quotient : num / den = 0 := Nat.div_eq_of_lt (by omega)
    have rest : num % den = num := Nat.mod_eq_of_lt (by omega)
    simp only [roundEven, quotient, rest] at rounded
    split_ifs at rounded <;> omega
  · intro large
    by_contra none
    have zero : roundEven num den = 0 := by omega
    have within : 2 * num ≤ (2 * roundEven num den + 1) * den := (roundEven_within positive).1
    rw [zero] at within
    omega

/-- The denominator of a float is positive. -/
theorem ratio_den_pos (significand : Nat) (exponent : Int) : 0 < (ratio significand exponent).2 :=
  Nat.pow_pos (by decide)

/-- A ratio of naturals is the number that a significand and an exponent stand for. -/
theorem ratio_num_eq (significand : Nat) (exponent : Int) :
    ((ratio significand exponent).1 : ℚ) =
      significand * 2 ^ exponent * (ratio significand exponent).2 := by
  change ((significand * 2 ^ exponent.toNat : Nat) : ℚ) =
    significand * 2 ^ exponent * ((2 ^ (-exponent).toNat : Nat) : ℚ)
  have split : exponent + ((-exponent).toNat : Int) = (exponent.toNat : Int) := by omega
  push_cast
  rw [mul_assoc, ← zpow_natCast (2 : ℚ) (-exponent).toNat, ← zpow_add₀ (by norm_num), split,
    zpow_natCast]

end Number

namespace Duration

/-- A duration that a float number of seconds comes to is that of a finite float that is not
negative, rounded to nanoseconds. -/
theorem exists_of_ofFloatSeconds? {seconds : Float} {span : Duration}
    (made : ofFloatSeconds? seconds = some span) :
    ∃ negative significand exponent,
      Number.read seconds = .finite negative significand exponent ∧
      (negative = true → (Number.ratio significand exponent).1 = 0) ∧
      span = ⟨Number.roundEven ((Number.ratio significand exponent).1 * 1000000000)
        (Number.ratio significand exponent).2⟩ := by
  unfold ofFloatSeconds? at made
  split at made
  case h_1 negative significand exponent read =>
    refine ⟨negative, significand, exponent, read, ?_⟩
    generalize Number.ratio significand exponent = quotient at made ⊢
    obtain ⟨num, den⟩ := quotient
    change (if (negative && decide (num ≠ 0)) = true then none else _) = _ at made
    split_ifs at made with isNegative fits
    refine ⟨fun sign => ?_, (Option.some.inj made).symm⟩
    simpa [sign] using isNegative
  case h_2 => contradiction

/-- A float number of seconds comes to some time exactly when it is more than half a nanosecond. -/
theorem pos_iff_of_ofFloatSeconds? {seconds : Float} {span : Duration}
    (made : ofFloatSeconds? seconds = some span) :
    ∃ exact, Number.rational? seconds = some exact ∧
      (0 < span.nanoseconds ↔ 1 / 2 < exact * 1000000000) := by
  obtain ⟨negative, significand, exponent, read, sign, rfl⟩ := exists_of_ofFloatSeconds? made
  refine ⟨_, by rw [Number.rational?, read], ?_⟩
  have positive := Number.ratio_den_pos significand exponent
  have value := Number.ratio_num_eq significand exponent
  generalize (Number.ratio significand exponent).1 = num at *
  generalize (Number.ratio significand exponent).2 = den at *
  generalize (significand * 2 ^ exponent : ℚ) = size at *
  have denPositive : (0 : ℚ) < den := Nat.cast_pos.mpr positive
  rw [Number.roundEven_pos_iff positive]
  cases negative with
  | false =>
    have scaled : 2 * ((num : ℚ) * 1000000000) = 2 * size * 1000000000 * den := by
      rw [value]
      ring
    have compared : den < 2 * (num * 1000000000) ↔ 1 < 2 * size * 1000000000 := by
      rw [← lt_mul_iff_one_lt_left denPositive, ← scaled]
      exact_mod_cast Iff.rfl
    rw [compared, if_neg Bool.false_ne_true]
    constructor <;> intro more <;> linarith
  | true =>
    -- Of the floats with a minus sign only the zero passes.
    have none : num = 0 := sign rfl
    have zero : size = 0 := by
      rw [none, Nat.cast_zero] at value
      exact (mul_eq_zero.mp value.symm).resolve_right (ne_of_gt denPositive)
    simp [none, zero]

end Duration

namespace ModelArguments

variable {text : String} {arguments : ModelArguments} {written : List Char}

/-- A text names a float number of seconds that is more than half a nanosecond. -/
def IsLasting (written : List Char) : Prop :=
  ∃ seconds ∈ (Number.float? written).bind Number.rational?, 1 / 2 < seconds * 1000000000

/-- A time limit that is accepted is that of the float which its text names. -/
theorem exists_of_timeoutOf {timeout : Duration} (accepted : timeoutOf written = .ok timeout) :
    ∃ seconds, Number.float? written = some seconds ∧
      Duration.ofFloatSeconds? seconds = some timeout := by
  obtain ⟨seconds, read, checked⟩ := exists_of_bind_eq_ok accepted
  refine ⟨seconds, Sampling.read_of_valueOf read, ?_⟩
  split at checked
  · contradiction
  · split at checked
    · next made => rw [made, Except.ok.inj checked]
    · contradiction

/-- A time limit that is accepted is positive exactly when its text names more than half a
nanosecond. -/
theorem pos_iff_of_timeoutOf {timeout : Duration} (accepted : timeoutOf written = .ok timeout) :
    0 < timeout.nanoseconds ↔ IsLasting written := by
  obtain ⟨seconds, found, made⟩ := exists_of_timeoutOf accepted
  obtain ⟨exact, finite, positive⟩ := Duration.pos_iff_of_ofFloatSeconds? made
  simp only [IsLasting, found, Option.bind_some, finite, Option.mem_some_iff, exists_eq_left',
    positive]

/-- The time limit is governed by the assignments to its key. -/
theorem governs_timeout :
    Assignment.Governs set ["timeout"] (fun written => (timeoutOf written).toOption) timeout where
  reads {state result key value} accepted named := by
    unfold set at accepted
    rw [List.mem_singleton.mp named] at accepted
    obtain ⟨limit, read, same⟩ := exists_of_bind_eq_ok accepted
    cases same
    exact ⟨limit, by rw [read]; rfl, rfl⟩
  keeps {state result key value} accepted unnamed := by
    unfold set at accepted
    split at accepted
    case h_3 here => exact absurd (List.mem_singleton.mpr here) unnamed
    case h_4 =>
      obtain ⟨_, -, same⟩ := exists_of_bind_eq_ok accepted
      cases same
      rfl
    case h_5 =>
      obtain ⟨_, -, same⟩ := exists_of_bind_eq_ok accepted
      cases same
      rfl
    all_goals
      cases accepted
      rfl

/-- Where a text of arguments is accepted, the time limit is absent or positive exactly when the
last one in the text, if there is one, is more than half a nanosecond. -/
theorem timeout_pos_iff (accepted : ofText text = .ok arguments) :
    (∀ timeout ∈ arguments.timeout, 0 < timeout.nanoseconds) ↔
      ∀ written ∈ Assignment.last? ["timeout"] text, IsLasting written := by
  obtain ⟨set, unset⟩ := governs_timeout.last accepted
  cases last : Assignment.last? ["timeout"] text with
  | none =>
    rw [unset last]
    exact ⟨fun _ => nofun, fun _ => nofun⟩
  | some written =>
    obtain ⟨limit, read, held⟩ := set written last
    have timed : timeoutOf written = .ok limit := eq_ok_of_toOption_eq_some read
    rw [held]
    simp [pos_iff_of_timeoutOf timed]

/-- A text with two time limits, of which the first is less than half a nanosecond. -/
def replaced : String := "timeout=1e-10, timeout = 6e-10"

/-- Of two time limits the last one counts, and one of more than half a nanosecond is rounded up. -/
theorem timeout_pos_iff_replaced :
    ∃ arguments, ofText replaced = .ok arguments ∧ arguments.timeout = some ⟨1⟩ ∧
      ∀ written ∈ Assignment.last? ["timeout"] replaced, IsLasting written := by
  have evaluated : (ofText replaced).map timeout = .ok (some ⟨1⟩) := by decide +kernel
  obtain ⟨arguments, accepted, limit⟩ := exists_of_map_eq_ok evaluated
  have positive : ∀ timeout ∈ arguments.timeout, 0 < timeout.nanoseconds := by
    rw [limit]
    decide
  exact ⟨arguments, accepted, limit, (timeout_pos_iff accepted).mp positive⟩

/-- A tenth of a nanosecond is more than zero and accepted, and is no time when it is rounded. -/
theorem not_timeout_pos :
    ¬∀ text arguments, ofText text = .ok arguments →
      ∀ timeout ∈ arguments.timeout, 0 < timeout.nanoseconds := by
  intro positive
  have evaluated : (ofText "timeout=1e-10").map timeout = .ok (some ⟨0⟩) := by decide +kernel
  obtain ⟨arguments, accepted, limit⟩ := exists_of_map_eq_ok evaluated
  exact Nat.lt_irrefl 0 (positive _ arguments accepted ⟨0⟩ limit)

end ModelArguments

end Assay
