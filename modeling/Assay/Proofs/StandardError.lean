import Assay.Metrics
import Mathlib.Algebra.BigOperators.Group.List.Basic
import Mathlib.Algebra.Order.Field.Rat
import Mathlib.Data.List.Perm.Basic
import Mathlib.Tactic.FieldSimp
import Mathlib.Tactic.Linarith
import Mathlib.Tactic.Ring

/-!
# Accuracy and its standard error

The arithmetic of metrics is written for any numbers, and is read here over the rationals, where it
is exact. Scores are zeros and ones, so the square of a score is the score, and the squared
distances from the mean add up to `n * m * (1 - m)` for `n` scores with the mean `m`. This makes the
accuracy the share of ones and the square of the error `m * (1 - m) / (n - 1)`, which is zero where
all scores agree. Neither depends on the order of the scores.

The same arithmetic is read once more over numbers that are lost when one of them is divided by zero
(`Checked`): it comes to a number for every list, so it never divides by zero.
-/
namespace Assay.Metrics

variable {values : List ℚ}

/-! ## Closed forms -/

/-- Numbers are added up to the first one and the sum of the others. -/
theorem foldl_add (first : ℚ) (rest : List ℚ) : rest.foldl (· + ·) first = first + rest.sum := by
  induction rest generalizing first with
  | nil => exact (add_zero first).symm
  | cons value rest ih => rw [List.foldl_cons, ih, List.sum_cons, add_assoc]

/-- The sum from left to right is the sum of the list. -/
theorem sum_eq (values : List ℚ) : sum (Nat.cast 0) values = values.sum := by
  cases values with
  | nil => exact Nat.cast_zero
  | cons first rest => rw [sum, foldl_add, List.sum_cons]

/-- The mean is the sum divided by the length, also of no numbers. -/
theorem mean_eq (values : List ℚ) : mean Nat.cast values = values.sum / values.length := by
  cases values with
  | nil => simp [mean]
  | cons value values => rw [mean, if_neg (by simp), sum_eq]

/-- The square of the error is zero for fewer than two numbers, and otherwise comes from the sum of
the squared distances from the mean. -/
theorem squaredError_eq (values : List ℚ) :
    squaredError Nat.cast values =
      if values.length ≤ 1 then 0
      else (values.map (squaredDistance (mean Nat.cast values))).sum / (values.length - 1 : ℕ) /
        values.length := by
  rw [squaredError, sum_eq, Nat.cast_zero]

/-- The mean of numbers does not depend on their order. -/
theorem mean_of_perm {other : List ℚ} (perm : other.Perm values) :
    mean Nat.cast other = mean Nat.cast values := by
  rw [mean_eq, mean_eq, perm.sum_eq, perm.length_eq]

/-- The error of numbers does not depend on their order. -/
theorem squaredError_of_perm {other : List ℚ} (perm : other.Perm values) :
    squaredError Nat.cast other = squaredError Nat.cast values := by
  rw [squaredError_eq, squaredError_eq, mean_of_perm perm, perm.length_eq, (perm.map _).sum_eq]

/-! ## Scores -/

/-- Numbers that are scores: each of them is zero or one. -/
def AreScores (values : List ℚ) : Prop := ∀ value ∈ values, value = 0 ∨ value = 1

instance (values : List ℚ) : Decidable (AreScores values) := List.decidableBAll _ values

/-- The sum of scores is the number of ones. -/
theorem sum_of_areScores (scores : AreScores values) : values.sum = values.count 1 := by
  induction values with
  | nil => simp
  | cons value values ih =>
    obtain ⟨here, later⟩ := List.forall_mem_cons.mp scores
    rw [List.sum_cons, ih later]
    rcases here with rfl | rfl
    · rw [List.count_cons_of_ne (by decide), zero_add]
    · rw [List.count_cons_self, Nat.cast_add, Nat.cast_one, add_comm]

/-- The squared distances of scores from a centre add up to what their sum says, as the square of a
score is the score. -/
theorem sum_squaredDistance (scores : AreScores values) (centre : ℚ) :
    (values.map (squaredDistance centre)).sum =
      values.sum * (1 - 2 * centre) + values.length * centre ^ 2 := by
  induction values with
  | nil => simp
  | cons value values ih =>
    obtain ⟨here, later⟩ := List.forall_mem_cons.mp scores
    have square : value * value = value := by rcases here with rfl | rfl <;> norm_num
    have distance : squaredDistance centre value = value * (1 - 2 * centre) + centre ^ 2 := by
      calc squaredDistance centre value
          = value * value - 2 * centre * value + centre ^ 2 := by rw [squaredDistance]; ring
        _ = value * (1 - 2 * centre) + centre ^ 2 := by rw [square]; ring
    rw [List.map_cons, List.sum_cons, ih later, distance, List.sum_cons, List.length_cons]
    push_cast
    ring

/-- The accuracy and the square of the error of scores are those of as many trials, of which each one
succeeds or fails. -/
structure IsBinomial (values : List ℚ) : Prop where
  /-- The accuracy is the share of ones. -/
  accuracy : mean Nat.cast values = values.count 1 / values.length
  inRange : 0 ≤ mean Nat.cast values ∧ mean Nat.cast values ≤ 1
  /-- One score alone has no error. -/
  single : values.length = 1 → squaredError Nat.cast values = 0
  /-- The error of two scores or more depends on the accuracy and on their number. -/
  several : 2 ≤ values.length → squaredError Nat.cast values =
    mean Nat.cast values * (1 - mean Nat.cast values) / (values.length - 1)
  /-- There is no error exactly for one score and where all scores agree. -/
  certain : squaredError Nat.cast values = 0 ↔
    values.length = 1 ∨ ∀ first ∈ values, ∀ second ∈ values, first = second

/-- The mean of scores is the share of ones. -/
theorem mean_of_areScores (scores : AreScores values) :
    mean Nat.cast values = values.count 1 / values.length := by
  rw [mean_eq, sum_of_areScores scores]

/-- The mean of scores lies between zero and one. -/
theorem mean_mem_range (scores : AreScores values) :
    0 ≤ mean Nat.cast values ∧ mean Nat.cast values ≤ 1 := by
  have few : (values.count 1 : ℚ) ≤ values.length := by exact_mod_cast List.count_le_length
  rw [mean_of_areScores scores]
  exact ⟨div_nonneg (Nat.cast_nonneg _) (Nat.cast_nonneg _),
    div_le_one_of_le₀ few (Nat.cast_nonneg _)⟩

/-- The squared error of two scores or more in closed form. -/
theorem squaredError_of_areScores (scores : AreScores values) (several : 2 ≤ values.length) :
    squaredError Nat.cast values =
      mean Nat.cast values * (1 - mean Nat.cast values) / (values.length - 1) := by
  have length : (2 : ℚ) ≤ values.length := by exact_mod_cast several
  have total : values.sum = values.length * mean Nat.cast values := by
    rw [mean_eq]
    field_simp
  rw [squaredError_eq, if_neg (by omega), sum_squaredDistance scores, total,
    Nat.cast_sub (by omega), Nat.cast_one]
  have positive : (values.length : ℚ) - 1 ≠ 0 := by linarith
  field_simp
  ring

/-- Scores agree exactly when their mean is zero or one. -/
theorem agree_iff (nonempty : values ≠ []) (scores : AreScores values) :
    (∀ first ∈ values, ∀ second ∈ values, first = second) ↔
      mean Nat.cast values = 0 ∨ mean Nat.cast values = 1 := by
  have size : (values.length : ℚ) ≠ 0 :=
    Nat.cast_ne_zero.mpr (mt List.length_eq_zero_iff.mp nonempty)
  have noOne : (values.count 1 : ℚ) / values.length = 0 ↔ 1 ∉ values := by
    rw [div_eq_zero_iff, or_iff_left size, Nat.cast_eq_zero, List.count_eq_zero]
  have onlyOnes : (values.count 1 : ℚ) / values.length = 1 ↔ ∀ value ∈ values, 1 = value := by
    rw [div_eq_one_iff_eq size, Nat.cast_inj, List.count_eq_length]
  rw [mean_of_areScores scores, noOne, onlyOnes]
  constructor
  · intro agree
    by_cases one : 1 ∈ values
    · exact .inr fun value among => agree 1 one value among
    · exact .inl one
  · rintro (none | all) first among second other
    · have zero : ∀ value ∈ values, value = 0 := fun value among =>
        (scores value among).resolve_right fun same => none (same ▸ among)
      rw [zero first among, zero second other]
    · rw [← all first among, ← all second other]

/-- The accuracy and the error of scores, of which there is one at least. -/
theorem isBinomial_of_areScores (nonempty : values ≠ []) (scores : AreScores values) :
    IsBinomial values where
  accuracy := mean_of_areScores scores
  inRange := mean_mem_range scores
  single alone := by rw [squaredError_eq, if_pos alone.le]
  several := squaredError_of_areScores scores
  certain := by
    by_cases single : values.length = 1
    · rw [squaredError_eq, if_pos single.le]
      exact iff_of_true rfl (.inl single)
    · have positive : 0 < values.length := List.length_pos_iff.mpr nonempty
      have several : 2 ≤ values.length := by omega
      have length : (2 : ℚ) ≤ values.length := by exact_mod_cast several
      have divisor : (values.length : ℚ) - 1 ≠ 0 := by linarith
      rw [or_iff_right single, agree_iff nonempty scores, squaredError_of_areScores scores several,
        div_eq_zero_iff, or_iff_left divisor, mul_eq_zero, sub_eq_zero, eq_comm (a := (1 : ℚ))]

/-! ## Divisions -/

/-- A number, or nothing once there was a division by zero on the way to it. -/
structure Checked where
  value? : Option ℚ

namespace Checked

/-- A number that no division was needed for. -/
def of (value : ℚ) : Checked := ⟨some value⟩

/-- A natural as a checked number. -/
def ofNat (n : ℕ) : Checked := of n

instance : Add Checked := ⟨fun a b => ⟨do some ((← a.value?) + (← b.value?))⟩⟩

instance : Sub Checked := ⟨fun a b => ⟨do some ((← a.value?) - (← b.value?))⟩⟩

instance : Mul Checked := ⟨fun a b => ⟨do some ((← a.value?) * (← b.value?))⟩⟩

instance : Div Checked where
  div a b := ⟨do
    let dividend ← a.value?
    let divisor ← b.value?
    if divisor = 0 then none else some (dividend / divisor)⟩

/-- A quotient is lost exactly where the divisor is zero. -/
theorem of_div (a b : ℚ) : of a / of b = if b = 0 then ⟨none⟩ else of (a / b) := by
  by_cases zero : b = 0
  · rw [if_pos zero]
    exact congrArg mk (if_pos zero)
  · rw [if_neg zero]
    exact congrArg mk (if_neg zero)

end Checked

/-- Adding up divides by nothing. -/
theorem sum_checked (values : List ℚ) :
    sum (.ofNat 0) (values.map Checked.of) = .of (sum (Nat.cast 0) values) := by
  cases values with
  | nil => rfl
  | cons first rest =>
    have fold : ∀ first : ℚ, (rest.map Checked.of).foldl (· + ·) (.of first) =
        .of (rest.foldl (· + ·) first) := by
      induction rest with
      | nil => exact fun _ => rfl
      | cons value rest ih => exact fun first => ih (first + value)
    exact fold first

/-- The mean never divides by zero. -/
theorem mean_checked (values : List ℚ) :
    mean Checked.ofNat (values.map Checked.of) = .of (mean Nat.cast values) := by
  cases values with
  | nil => rfl
  | cons value values =>
    have divisor : ((value :: values).length : ℚ) ≠ 0 := Nat.cast_ne_zero.mpr (Nat.succ_ne_zero _)
    rw [mean, mean, if_neg (by simp), if_neg (by simp), sum_checked, List.length_map,
      Checked.ofNat, Checked.of_div, if_neg divisor]

/-- The error never divides by zero. -/
theorem squaredError_checked (values : List ℚ) :
    squaredError Checked.ofNat (values.map Checked.of) = .of (squaredError Nat.cast values) := by
  by_cases few : values.length ≤ 1
  · rw [squaredError, squaredError, List.length_map, if_pos few, if_pos few]
    rfl
  · have distances : (values.map Checked.of).map (squaredDistance (.of (mean Nat.cast values))) =
        (values.map (squaredDistance (mean Nat.cast values))).map .of := by
      rw [List.map_map, List.map_map]
      rfl
    have others : ((values.length - 1 : ℕ) : ℚ) ≠ 0 := Nat.cast_ne_zero.mpr (by omega)
    have all : (values.length : ℚ) ≠ 0 := Nat.cast_ne_zero.mpr (by omega)
    rw [squaredError, squaredError, List.length_map, if_neg few, if_neg few, mean_checked,
      distances, sum_checked, Checked.ofNat, Checked.ofNat, Checked.of_div, if_neg others,
      Checked.of_div, if_neg all]

/-! ## Metrics -/

/-- Metrics of scores are those of trials that succeed or fail: the accuracy is the share `m` of ones
among `n` scores, and the square of the error is `m * (1 - m) / (n - 1)`, or zero for one score. For
no list of numbers, the empty one included, do the two depend on the order or divide by zero. -/
theorem mean_squaredError_binomial (values : List ℚ) :
    (values ≠ [] → AreScores values → IsBinomial values) ∧
      (∀ other : List ℚ, other.Perm values → mean Nat.cast other = mean Nat.cast values ∧
        squaredError Nat.cast other = squaredError Nat.cast values) ∧
      mean Checked.ofNat (values.map .of) = .of (mean Nat.cast values) ∧
      squaredError Checked.ofNat (values.map .of) = .of (squaredError Nat.cast values) :=
  ⟨isBinomial_of_areScores, fun _ perm => ⟨mean_of_perm perm, squaredError_of_perm perm⟩,
    mean_checked values, squaredError_checked values⟩

/-- Of four scores, two ones and two zeros, one half is right, and the square of the error is one
twelfth. -/
theorem mean_squaredError_binomial_half :
    [1, 0, 1, 0] ≠ ([] : List ℚ) ∧ AreScores [1, 0, 1, 0] ∧ IsBinomial [1, 0, 1, 0] ∧
      mean (Nat.cast (R := ℚ)) [1, 0, 1, 0] = 1 / 2 ∧
      squaredError (Nat.cast (R := ℚ)) [1, 0, 1, 0] = 1 / 12 := by
  have binomial := (mean_squaredError_binomial [1, 0, 1, 0]).1 (by decide) (by decide)
  have accuracy : mean (Nat.cast (R := ℚ)) [1, 0, 1, 0] = 1 / 2 := by
    have ones : List.count (1 : ℚ) [1, 0, 1, 0] = 2 := by decide
    rw [binomial.accuracy, ones]
    norm_num
  refine ⟨by decide, by decide, binomial, accuracy, ?_⟩
  rw [binomial.several (by decide), accuracy]
  norm_num

end Assay.Metrics
