import Assay.Json.Value

/-!
# Metrics

The accuracy of an evaluation is the mean credit of its samples, and its error is the standard
error of that mean. Both are written for any numbers with the four operations, so that they can
be read over floats, where they are computed, and over a field, where they are reasoned about.
-/
namespace Assay

namespace Metrics

/-- The sum of numbers from left to right, starting with the first. -/
def sum {α : Type} [Add α] (zero : α) : List α → α
  | [] => zero
  | first :: rest => rest.foldl (· + ·) first

section

variable {α : Type} [Add α] [Sub α] [Mul α] [Div α] (ofNat : Nat → α)

/-- The mean of numbers, and zero of none. -/
def mean (values : List α) : α :=
  if values.isEmpty then ofNat 0 else sum (ofNat 0) values / ofNat values.length

/-- The square of the distance of a number from a centre. -/
def squaredDistance (centre value : α) : α :=
  (value - centre) * (value - centre)

/-- The square of the standard error of the mean, and zero for fewer than two numbers. -/
def squaredError (values : List α) : α :=
  if values.length ≤ 1 then ofNat 0
  else
    sum (ofNat 0) (values.map (squaredDistance (mean ofNat values))) /
      ofNat (values.length - 1) / ofNat values.length

end

end Metrics

/-- How well an evaluation went. -/
structure Metrics where
  accuracy : Float
  error : Float

namespace Metrics

/-- The metrics of credits. -/
def ofCredits (credits : List Float) : Metrics :=
  ⟨mean Float.ofNat credits, (squaredError Float.ofNat credits).sqrt⟩

/-- Metrics as JSON. -/
def toJson (metrics : Metrics) : Json.Value :=
  .object [("accuracy", .float metrics.accuracy), ("stderr", .float metrics.error)]

end Metrics
end Assay
