import VoiceEngine.Scalar

/-!
# Noise floors

A noise floor estimates the power of the background. The first power sets it; a quieter
one pulls it down at once, to a mixture of nine parts of the new power and one part of the
old floor; and while the signal is louder it creeps up by a small factor.
-/

namespace VoiceEngine.NoiseFloor

/-- Growth of a noise floor from one power to the next. -/
def creep : Scalar := 1.0002

/-- The noise floor after a given power. -/
def track (floor : Option Scalar) (power : Scalar) : Scalar :=
  match floor with
  | none => power
  | some floor => if power < floor then (0.9 * power + 0.1 * floor) * creep else floor * creep

end VoiceEngine.NoiseFloor
