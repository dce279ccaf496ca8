import VoiceEngine.Effect.Pass
import VoiceEngine.Level

/-!
# Gain control

The captured frame is measured before other effects change it, and the gain is applied
after them. In the fixed mode the gain is the configured one. In the adaptive modes it
moves toward what would bring the measured level to the target, by at most half a decibel
up and two decibels down per frame; quiet input does not steer it and an active far end
keeps it from rising, so that echo is not amplified. A limiter lowers the gain of a single
frame whose peak would pass the ceiling.

In the adaptive analog mode the device volume has to be reported before every frame, and
the effect recommends a volume: two steps lower when the measured frame was saturated, one
step higher when the input stays too quiet although the gain is exhausted.
-/

namespace VoiceEngine

namespace GainControl

/-- How the gain is chosen. -/
inductive Mode
  /-- A recommended device volume and an adapted gain. -/
  | adaptiveAnalog
  /-- An adapted gain alone. -/
  | adaptiveDigital
  /-- The configured gain. -/
  | fixedDigital
  deriving DecidableEq

/-- The largest device volume. -/
def volumeLimit : Int := 65535

/-- The lowest target level, in decibels below full scale. -/
def targetLimit : Int := 31

/-- The largest gain that can be configured, in decibels. -/
def compressionLimit : Int := 90

/-- Input at or below this level does not steer the gain. -/
def speechLevel : Scalar := -60.0

/-- Level above which the far end is active. -/
def farEndActiveLevel : Scalar := -50.0

/-- The largest rise of the gain in one frame, in decibels. -/
def maxRise : Scalar := 0.5

/-- The largest fall of the gain in one frame, in decibels. -/
def maxFall : Scalar := 2.0

/-- The peak that the limiter keeps. -/
def limiterCeiling : Scalar := 32000.0

/-- A sample of this magnitude counts as saturated. -/
def saturationMagnitude : Nat := 32000

/-- Steps from the lowest to the highest volume. -/
def volumeSteps : Int := 16

/-- The largest magnitude of a block. -/
def peak (block : List Sample) : Scalar :=
  (block.map fun sample => (Sample.toScalar sample).abs).foldl Scalar.larger 0.0

end GainControl

/-- The gain control of the captured stream. -/
structure GainControl where
  enabled : Bool := false
  mode : GainControl.Mode := .adaptiveAnalog
  minVolume : Int := 0
  maxVolume : Int := 255
  /-- The target level in decibels below full scale. -/
  target : Int := 3
  /-- The largest gain in decibels. -/
  compression : Int := 9
  limits : Bool := true
  /-- The device volume that was reported last. -/
  volume : Int := 0
  /-- Whether a volume was reported that no capture has used yet. -/
  volumeIsSet : Bool := false
  recommended : Int := 0
  /-- Whether the last measured frame was saturated. -/
  isSaturated : Bool := false
  /-- The level of the last measured frame. -/
  level : Scalar := Level.silence
  farEndIsActive : Bool := false
  /-- The gain in decibels. -/
  gain : Scalar := 0.0

namespace GainControl

/-- A fresh state; a disabled effect keeps what it has. -/
def prepare (effect : GainControl) : GainControl :=
  if effect.enabled then
    { effect with
      gain := 0.0
      farEndIsActive := false
      isSaturated := false
      level := Level.silence
      recommended := Word.clip effect.minVolume effect.maxVolume effect.volume }
  else effect

/-- Measures a captured frame before other effects change it. -/
def measure (effect : GainControl) (audio : StreamBuffer) : GainControl :=
  if effect.enabled then
    { effect with
      level := Level.ofPower (Level.meanPower audio.lowBands)
      isSaturated := audio.used.any fun channel =>
        (audio.fullBand channel).any fun sample => saturationMagnitude ≤ sample.magnitude }
  else effect

/-- Takes in a far-end frame. -/
def render (effect : GainControl) (audio : StreamBuffer) : GainControl :=
  if effect.enabled then
    { effect with
      farEndIsActive := farEndActiveLevel < Level.ofPower (Level.meanPower audio.lowBands) }
  else effect

/-- The gain that the measured level calls for. -/
def desiredGain (effect : GainControl) : Scalar :=
  let largest := Float32.ofInt effect.compression
  match effect.mode with
  | .fixedDigital => largest
  | .adaptiveAnalog | .adaptiveDigital =>
    if speechLevel < effect.level then
      Scalar.confine 0.0 largest (-(Float32.ofInt effect.target) - effect.level)
    else effect.gain

/-- The gain for the frame at hand. -/
def nextGain (effect : GainControl) : Scalar :=
  let desired := effect.desiredGain
  match effect.mode with
  | .fixedDigital => desired
  | .adaptiveAnalog | .adaptiveDigital =>
    let change := desired - effect.gain
    let allowed := if effect.farEndIsActive then Scalar.smaller change 0.0 else change
    effect.gain + Scalar.confine (-maxFall) maxRise allowed

/-- Whether the input is too quiet although the gain is exhausted. -/
def isTooQuiet (effect : GainControl) : Bool :=
  speechLevel < effect.level &&
    effect.level < -(Float32.ofInt effect.target) - 10.0 &&
    Float32.ofInt effect.compression - maxRise ≤ effect.gain

/-- The volume that is recommended after the frame at hand. -/
def recommend (effect : GainControl) : Int :=
  let step := max (Int.tdiv (effect.maxVolume - effect.minVolume) volumeSteps) 1
  let wanted :=
    if effect.isSaturated then effect.volume - 2 * step
    else if effect.isTooQuiet ∧ !effect.farEndIsActive then effect.volume + step
    else effect.volume
  Word.clip effect.minVolume effect.maxVolume wanted

/-- The factor for one channel: the gain, or less when the limiter steps in. -/
def factor (effect : GainControl) (ratio : Scalar) (audio : StreamBuffer) (channel : Nat) :
    Scalar :=
  let low := peak (audio.lowBand channel)
  let highest :=
    match audio.highBand? channel with
    | some high => Scalar.larger low (peak high)
    | none => low
  if effect.limits ∧ limiterCeiling < highest * ratio then limiterCeiling / highest else ratio

/-- Applies the gain to one channel. -/
def amplifyChannel (effect : GainControl) (ratio : Scalar) (audio : StreamBuffer)
    (channel : Nat) : StreamBuffer :=
  audio.amplify channel (effect.factor ratio audio channel)

/-- Whether this capture needs a volume that was not reported. -/
def lacksVolume (effect : GainControl) : Bool :=
  effect.mode = .adaptiveAnalog && !effect.volumeIsSet

/-- Applies the gain to every channel in use. -/
def capture (effect : GainControl) (audio : StreamBuffer) : Pass GainControl :=
  if !effect.enabled then .done effect audio
  else if effect.lacksVolume then .refused .parameterNotSet effect audio
  else
    let moved := { effect with gain := effect.nextGain }
    let ratio := Level.gainOfDecibels moved.gain
    let audio := audio.used.foldl (moved.amplifyChannel ratio) audio
    let final :=
      if moved.mode = .adaptiveAnalog then
        { moved with recommended := moved.recommend, volumeIsSet := false }
      else moved
    .done final audio

/-- Sets the range of the volume, which must not be empty or pass the limits. -/
def setVolumeRange (effect : GainControl) (lowest highest : Int) : Except Fault GainControl :=
  if lowest < 0 ∨ volumeLimit < highest ∨ highest ≤ lowest then .error .badParameter
  else
    .ok { effect with
      minVolume := lowest
      maxVolume := highest
      recommended := Word.clip lowest highest effect.recommended }

/-- Sets the target level in decibels below full scale. -/
def setTarget (effect : GainControl) (target : Int) : Except Fault GainControl :=
  if 0 ≤ target ∧ target ≤ targetLimit then .ok { effect with target }
  else .error .badParameter

/-- Sets the largest gain in decibels. -/
def setCompression (effect : GainControl) (compression : Int) : Except Fault GainControl :=
  if 0 ≤ compression ∧ compression ≤ compressionLimit then .ok { effect with compression }
  else .error .badParameter

/-- Reports the device volume for the next captured frame. -/
def setVolume (effect : GainControl) (volume : Int) : Except Fault GainControl :=
  if volume < effect.minVolume ∨ effect.maxVolume < volume then .error .badParameter
  else .ok { effect with volume, volumeIsSet := true }

end GainControl

end VoiceEngine
