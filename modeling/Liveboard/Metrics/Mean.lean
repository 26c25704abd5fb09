import Liveboard.Metrics.Count

/-!
# Means with their weights

A mean is merged with another by weighting each with the number of
observations behind it. The products are formed before the division, so a
merged mean is that of all observations, up to what the numbers in use can
express.

The rule is written once for any kind of number that counts can be turned
into, a `Measure`, so that what the doubles approximate can be said in exact
fractions: `weightedMean` over the rationals is the exact rule, and over
doubles the one that runs. A `Tally` is a mean that carries its count, and
`Tally.merge` is the rule on tallies.
-/

namespace Liveboard

/-- **The mean of two means**, each weighted by its count. Without any
observation the current mean stays as it is. -/
def weightedMean {α : Type} [Add α] [Mul α] [Div α] [OfNat α 0] [BEq α]
    (currentMean currentCount addedMean addedCount : α) : α :=
  let total := currentCount + addedCount
  if total == 0 then currentMean
  else (currentMean * currentCount + addedMean * addedCount) / total

/-- Numbers that means are computed in. -/
class Measure (α : Type) extends Add α, Mul α, Div α, OfNat α 0, BEq α where
  /-- The number that a count stands for. -/
  ofCount : Count → α

instance : Measure Float where
  ofCount := UInt64.toFloat

/-- **A mean and the number of observations behind it.** -/
structure Tally (α : Type) where
  /-- The mean. -/
  mean : α
  /-- The number of observations. -/
  count : Count

/-- The tally of the observations of two tallies. -/
def Tally.merge {α : Type} [Measure α] (current added : Tally α) : Tally α where
  mean := weightedMean current.mean (Measure.ofCount current.count)
    added.mean (Measure.ofCount added.count)
  count := current.count.add added.count

end Liveboard
