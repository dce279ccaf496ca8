/-!
# Levels, gains and powers

Everything that is not a sample is a binary32 number: levels in decibels, linear gains,
powers and filter weights. Results depend on the order of the operations, so each rule
here and in the effects is written in the one order that is meant and no operation is
fused with another.

A maximum or minimum ignores an operand that is not a number, so a level that cannot be
measured never replaces one that can. Confining a value to an interval leaves a value
that is not a number as it is.
-/

namespace VoiceEngine

/-- A level, gain, power or weight. -/
abbrev Scalar := Float32

namespace Scalar

/-- The larger of two values; the other one when one of them is not a number. -/
def larger (left right : Scalar) : Scalar :=
  if left < right ∨ left.isNaN then right else left

/-- The smaller of two values; the other one when one of them is not a number. -/
def smaller (left right : Scalar) : Scalar :=
  if right < left ∨ left.isNaN then right else left

/-- The point of the interval from `low` to `high` that is nearest to `value`. -/
def confine (low high value : Scalar) : Scalar :=
  let raised := if value < low then low else value
  if high < raised then high else raised

/-- The sum of a list, from the left and starting at zero. -/
def total (values : List Scalar) : Scalar := values.foldl (· + ·) 0

/-- A count as a scalar. -/
def ofCount (count : Nat) : Scalar := Float32.ofNat count

/-- One step of exponential smoothing with equal weight on the past and the target. -/
def approach (current target : Scalar) : Scalar := 0.5 * current + (1.0 - 0.5) * target

end Scalar

end VoiceEngine
