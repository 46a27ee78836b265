/-!
# Rounding a quotient

`roundEven` is the quotient of two naturals rounded to the nearest natural, with a tie going to
the even neighbour.
-/
namespace Assay.Number

/-- The natural nearest to `num / den`; of two that are equally near, the even one. -/
def roundEven (num den : Nat) : Nat :=
  let quotient := num / den
  let rest := num % den
  if 2 * rest < den then quotient
  else if den < 2 * rest then quotient + 1
  else quotient + quotient % 2

/-- A rounded quotient lies within half a unit of the quotient. -/
theorem roundEven_within {num den : Nat} (positive : 0 < den) :
    2 * num ≤ (2 * roundEven num den + 1) * den ∧
      2 * roundEven num den * den ≤ 2 * num + den := by
  have split : den * (num / den) + num % den = num := Nat.div_add_mod num den
  have small : num % den < den := Nat.mod_lt _ positive
  have parity : num / den % 2 < 2 := Nat.mod_lt _ (by decide)
  rw [Nat.mul_comm] at split
  generalize hq : num / den = q at *
  generalize hr : num % den = r at *
  simp only [roundEven, hq, hr]
  split
  · constructor <;> grind
  · split
    · constructor <;> grind
    · have : q % 2 = 0 ∨ q % 2 = 1 := by omega
      rcases this with even | odd
      · rw [even]; constructor <;> grind
      · rw [odd]; constructor <;> grind

end Assay.Number
