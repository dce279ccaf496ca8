import VoiceEngine.Effect.Pass
import VoiceEngine.FarEnd
import VoiceEngine.NoiseFloor
import VoiceEngine.StreamDelay

/-!
# Echo control for handsets

Instead of predicting the echo, the captured power of a frame is compared with the far-end
power at the reported delay. The gain of the echo path is tracked as the slowly rising
minimum of their ratio, and the frame is attenuated by the share of it that this echo
explains, weighted for the acoustic routing. When noise was suppressed before, the
comparison uses the snapshot taken before that.

An attenuated frame can be filled with comfort noise at the background power that was
measured while the far end was silent. The noise comes from a linear congruential generator
that all channels share.

The effect does not work on split streams, so it cannot be prepared for the highest rate.
-/

namespace VoiceEngine

namespace MobileEchoControl

/-- The acoustic routing that the effect is tuned for. -/
inductive Routing
  | quietEarpieceOrHeadset
  | earpiece
  | loudEarpiece
  | speakerphone
  | loudSpeakerphone
  deriving DecidableEq

/-- The weight of the echo in a routing: louder routings suppress harder. -/
def Routing.overdrive : Routing → Scalar
  | quietEarpieceOrHeadset => 1.0
  | earpiece => 1.5
  | loudEarpiece => 2.0
  | speakerphone => 3.0
  | loudSpeakerphone => 4.0

/-- Power above which the far end is active. -/
def activePower : Scalar := 10000.0

/-- Growth of the gain of the echo path with every frame. -/
def pathCreep : Scalar := 1.01

/-- The smallest gain. -/
def minGain : Scalar := 0.1

/-- The seed of a fresh noise generator. -/
def firstSeed : UInt32 := 42

/-- The mean square of scalars, summed in binary32. -/
def power (values : List Scalar) : Scalar :=
  if values.isEmpty then 0.0
  else Scalar.total (values.map fun value => value * value) / Scalar.ofCount values.length

/-- The next seed of the noise generator. -/
def nextSeed (seed : UInt32) : UInt32 := (seed * 69069 + 1) &&& 0x7fffffff

/-- The noise value of a seed, at least minus one and less than one. -/
def noiseOf (seed : UInt32) : Scalar := (seed >>> 15).toFloat32 / 32768.0 - 1.0

/-- The memory of one channel. -/
structure Channel where
  pathGain : Scalar := 1.0
  gain : Scalar := 1.0
  noiseFloor : Option Scalar := none

namespace Channel

/-- The channel after a frame of a given power, and the gain that the frame calls for. -/
def compare (channel : Channel) (overdrive far : Scalar) (near : Scalar) : Channel × Scalar :=
  if activePower < far ∧ 0.0 < near then
    let pathGain := Scalar.smaller (channel.pathGain * pathCreep) (near / far)
    let echo := pathGain * far
    ({ channel with pathGain }, Scalar.larger (1.0 - overdrive * echo / near) minGain)
  else if 0.0 < near then
    ({ channel with noiseFloor := some (NoiseFloor.track channel.noiseFloor near) }, 1.0)
  else (channel, 1.0)

/-- The amplitude of the comfort noise, zero when there is to be none. -/
def comfortAmplitude (channel : Channel) (comfortNoise : Bool) : Scalar :=
  match channel.noiseFloor with
  | some floor =>
    if comfortNoise ∧ channel.gain < 1.0 then floor.sqrt * (1.0 - channel.gain) else 0.0
  | none => 0.0

end Channel

/-- Attenuates a block and fills it with noise, and gives the seed afterwards. Without an
amplitude no noise value is drawn. -/
def fill (gain amplitude : Scalar) : UInt32 → List Sample → List Sample × UInt32
  | seed, [] => ([], seed)
  | seed, sample :: rest =>
    let drawn := if 0.0 < amplitude then nextSeed seed else seed
    let noise := if 0.0 < amplitude then amplitude * noiseOf drawn else 0.0
    let (filled, final) := fill gain amplitude drawn rest
    (Sample.ofScalar (Sample.toScalar sample * gain + noise) :: filled, final)

end MobileEchoControl

/-- The mobile echo control of the captured stream. -/
structure MobileEchoControl where
  enabled : Bool := false
  routing : MobileEchoControl.Routing := .speakerphone
  comfortNoise : Bool := true
  farEnd : FarEnd := {}
  channels : List MobileEchoControl.Channel := []
  seed : UInt32 := MobileEchoControl.firstSeed

namespace MobileEchoControl

/-- A fresh state for a format; a disabled effect keeps what it has, and an enabled one
refuses the highest rate. -/
def prepare (effect : MobileEchoControl) (format : Format) : Except Fault MobileEchoControl :=
  if !effect.enabled then .ok effect
  else if format.rate.isSplit then .error .badSampleRate
  else
    .ok { effect with
      farEnd := FarEnd.silent format 0
      channels := List.replicate format.outputChannels {}
      seed := firstSeed }

/-- Takes in a far-end frame. -/
def render (effect : MobileEchoControl) (audio : StreamBuffer) :
    Except Fault MobileEchoControl :=
  if !effect.enabled then .ok effect
  else if effect.farEnd.Fits audio.bandLength then
    .ok { effect with farEnd := effect.farEnd.push (FarEnd.ofBuffer audio) }
  else .error .unspecified

/-- Attenuates the echo in one channel, given the far-end power. -/
def controlChannel (far : Scalar) (state : MobileEchoControl × StreamBuffer) (index : Nat) :
    MobileEchoControl × StreamBuffer :=
  let (effect, audio) := state
  match effect.channels[index]? with
  | none => state
  | some channel =>
    let clean := audio.lowBand index
    let near := power (((audio.snapshot? index).getD clean).map Sample.toScalar)
    let (compared, target) := channel.compare effect.routing.overdrive far near
    let next := { compared with gain := Scalar.approach channel.gain target }
    let amplitude := next.comfortAmplitude effect.comfortNoise
    let (filled, seed) := fill next.gain amplitude effect.seed clean
    ({ effect with channels := effect.channels.set index next, seed },
      audio.setLowBand index filled)

/-- Attenuates the echo in every channel in use. -/
def capture (effect : MobileEchoControl) (delay : StreamDelay) (audio : StreamBuffer) :
    Pass MobileEchoControl :=
  if !effect.enabled then .done effect audio
  else if !delay.isSet then .refused .parameterNotSet effect audio
  else if effect.farEnd.Fits audio.bandLength ∧ audio.channelCount ≤ effect.channels.length then
    let reference := effect.farEnd.reference audio.bandLength (effect.farEnd.delayOf delay.ms)
    let (controlled, audio) := audio.used.foldl (controlChannel (power reference))
      (effect, audio)
    .done controlled audio
  else .refused .unspecified effect audio

end MobileEchoControl

end VoiceEngine
