import VoiceEngine.Word
import VoiceEngine.Scalar

/-!
# Samples

A sample is one signed 16-bit value of linear PCM. Effects that scale audio read a
sample as a scalar on the same scale, without normalizing it, and write the scaled value
back rounded to the nearest sample, halves away from zero, and saturated. A value that is
not a number is written as silence.
-/

namespace VoiceEngine

/-- One value of linear 16-bit PCM. -/
abbrev Sample := Int16

namespace Sample

/-- The smallest sample as a scalar. -/
def lowest : Scalar := -32768.0

/-- The largest sample as a scalar. -/
def highest : Scalar := 32767.0

/-- The sample on the scale of scalars, unchanged. -/
def toScalar (sample : Sample) : Scalar := Float32.ofInt sample.toInt

/-- The sample nearest to a scalar. -/
def ofScalar (value : Scalar) : Sample := (Scalar.confine lowest highest value).round.toInt16

/-- One sample multiplied by a gain. -/
def amplify (gain : Scalar) (sample : Sample) : Sample := ofScalar (toScalar sample * gain)

/-- The absolute value as an integer, which also covers the smallest sample. -/
def magnitude (sample : Sample) : Nat := sample.toInt.natAbs

/-- The square as an exact integer. -/
def square (sample : Sample) : Nat := sample.magnitude * sample.magnitude

end Sample

end VoiceEngine
