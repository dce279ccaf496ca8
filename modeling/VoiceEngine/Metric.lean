import VoiceEngine.Scalar

/-!
# Running summaries of a measurement

A measurement in decibels is summarized by its last value, its mean and its extremes.
Summaries are read as whole numbers, rounded to nearest with halves away from zero; before
the first measurement all of them are zero.
-/

namespace VoiceEngine

/-- A summary as it is read. -/
structure Summary where
  instant : Int := 0
  average : Int := 0
  maximum : Int := 0
  minimum : Int := 0
  deriving DecidableEq

/-- A measurement as it is accumulated. -/
structure Metric where
  sum : Float := 0.0
  count : Nat := 0
  instant : Scalar := 0.0
  maximum : Scalar := 0.0
  minimum : Scalar := 0.0

namespace Metric

/-- The largest number of measurements that is counted. -/
def maxCount : Nat := 4294967295

/-- The summary after one more measurement. -/
def update (metric : Metric) (value : Scalar) : Metric :=
  { sum := metric.sum + value.toFloat
    count := min (metric.count + 1) maxCount
    instant := value
    maximum := if metric.count = 0 then value else Scalar.larger metric.maximum value
    minimum := if metric.count = 0 then value else Scalar.smaller metric.minimum value }

/-- A scalar as a whole number. -/
def rounded (value : Scalar) : Int := value.round.toInt32.toInt

/-- The summary of all measurements so far. -/
def summary (metric : Metric) : Summary :=
  if metric.count = 0 then {}
  else
    { instant := rounded metric.instant
      average := (metric.sum / Float.ofNat metric.count).round.toInt32.toInt
      maximum := rounded metric.maximum
      minimum := rounded metric.minimum }

end Metric

end VoiceEngine
