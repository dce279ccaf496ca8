import VoiceEngine.Effect.Pass
import VoiceEngine.Level
import VoiceEngine.NoiseFloor

/-!
# Noise suppressor

Every captured channel is processed in four sub-blocks per frame. A noise floor follows
the power of the sub-blocks down quickly and creeps up slowly, and each sub-block is
multiplied by a gain that subtracts twice the floor from its power, bounded below by the
configured level and smoothed over time. A silent sub-block leaves the floor and the gain
as they are. The high band of a split stream gets the gains of the low band.
-/

namespace VoiceEngine

namespace NoiseSuppressor

/-- How strongly noise is suppressed. -/
inductive Strength
  | low
  | moderate
  | high
  | veryHigh
  deriving DecidableEq

/-- The smallest gain of a strength. -/
def Strength.gainFloor : Strength → Scalar
  | low => 0.5
  | moderate => 0.25
  | high => 0.125
  | veryHigh => 0.089

/-- Sub-blocks in one frame. -/
def blocksPerFrame : Nat := 4

/-- How often the noise floor is subtracted from the power. -/
def overSubtraction : Scalar := 2.0

/-- The memory of one channel. -/
structure Channel where
  noiseFloor : Option Scalar := none
  gain : Scalar := 1.0

namespace Channel

/-- The channel after a sub-block of a given power. -/
def update (channel : Channel) (power gainFloor : Scalar) : Channel :=
  if 0.0 < power then
    let floor := NoiseFloor.track channel.noiseFloor power
    let target := Scalar.larger (1.0 - overSubtraction * floor / power) gainFloor
    { noiseFloor := some floor, gain := Scalar.approach channel.gain target }
  else channel

/-- Suppresses a number of sub-blocks: the suppressed samples, the gain of each sub-block
and the channel afterwards. Samples beyond the last sub-block stay as they are. -/
def suppress (gainFloor : Scalar) (blockLength : Nat) :
    Nat → Channel → List Sample → List Sample × List Scalar × Channel
  | 0, channel, samples => (samples, [], channel)
  | blocks + 1, channel, samples =>
    let block := samples.take blockLength
    let next := channel.update (Level.meanSquare block) gainFloor
    let (rest, gains, final) :=
      suppress gainFloor blockLength blocks next (samples.drop blockLength)
    (block.map (Sample.amplify next.gain) ++ rest, next.gain :: gains, final)

end Channel

/-- Multiplies consecutive sub-blocks by one gain each; what lies beyond the last gain
stays as it is. -/
def amplifyBlocks (blockLength : Nat) : List Scalar → List Sample → List Sample
  | [], samples => samples
  | gain :: gains, samples =>
    (samples.take blockLength).map (Sample.amplify gain) ++
      amplifyBlocks blockLength gains (samples.drop blockLength)

end NoiseSuppressor

/-- The noise suppressor of the captured stream. -/
structure NoiseSuppressor where
  enabled : Bool := false
  strength : NoiseSuppressor.Strength := .moderate
  channels : List NoiseSuppressor.Channel := []

namespace NoiseSuppressor

/-- Fresh channels for a format; a disabled effect keeps what it has. -/
def prepare (effect : NoiseSuppressor) (format : Format) : NoiseSuppressor :=
  if effect.enabled then
    { effect with channels := List.replicate format.outputChannels {} }
  else effect

/-- Suppresses the noise of one channel, in both bands. -/
def suppressChannel (blockLength : Nat) (state : NoiseSuppressor × StreamBuffer)
    (index : Nat) : NoiseSuppressor × StreamBuffer :=
  let (effect, audio) := state
  match effect.channels[index]? with
  | none => state
  | some channel =>
    let (samples, gains, next) := channel.suppress effect.strength.gainFloor blockLength
      blocksPerFrame (audio.lowBand index)
    ({ effect with channels := effect.channels.set index next },
      (audio.setLowBand index samples).mapHighBand index (amplifyBlocks blockLength gains))

/-- Suppresses the noise of every channel in use, unless there are more than prepared. -/
def capture (effect : NoiseSuppressor) (audio : StreamBuffer) : Pass NoiseSuppressor :=
  if !effect.enabled then .done effect audio
  else if effect.channels.length < audio.channelCount then .refused .unspecified effect audio
  else
    let blockLength := audio.bandLength / blocksPerFrame
    let (effect, audio) := audio.used.foldl (suppressChannel blockLength) (effect, audio)
    .done effect audio

end NoiseSuppressor

end VoiceEngine
