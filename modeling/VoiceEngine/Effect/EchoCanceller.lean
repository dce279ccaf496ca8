import VoiceEngine.Effect.Pass
import VoiceEngine.FarEnd
import VoiceEngine.Metric
import VoiceEngine.StreamDelay

/-!
# Echo canceller

Every captured channel has an adaptive filter whose taps reach eight milliseconds back into
the far-end history, aligned by the reported delay. The filter predicts the echo sample by
sample, the prediction is subtracted, and the weights move along the far-end values in
proportion to what is left over, divided by the power of those values. The remaining echo
is attenuated by one gain for the whole frame, bounded below and smoothed over time. The
high band of a split stream gets the same gain.

While the far end is active, the first channel contributes to four quality metrics.

A capture needs a stream delay that was reported for this frame, and a clock drift as well
when drift compensation is on. The drift counts as used as soon as both were found, even
when the pass is then refused because the state was made for another format.
-/

namespace VoiceEngine

namespace EchoCanceller

/-- How strongly the remaining echo is suppressed. -/
inductive Suppression
  | low
  | moderate
  | high
  deriving DecidableEq

/-- The factor on the echo estimate before it becomes a gain. -/
def Suppression.overdrive : Suppression → Scalar
  | low => 0.5
  | moderate => 1.0
  | high => 2.0

/-- Length of the adaptive filter in milliseconds. -/
def filterMs : Nat := 8

/-- How far the weights move along one correction. -/
def stepSize : Scalar := 0.5

/-- What every tap adds to the power that divides a correction. -/
def regularizationPerTap : Scalar := 10000.0

/-- Power above which the far end is active. -/
def activePower : Scalar := 10000.0

/-- The smallest gain. -/
def minGain : Scalar := 0.05

/-- Share of the captured power above which echo is reported. -/
def echoShare : Scalar := 0.1

/-- The lowest rate of a sound card. -/
def minDeviceHz : Nat := 8000

/-- The highest rate of a sound card. -/
def maxDeviceHz : Nat := 96000

/-- The mean square of scalars, summed in binary64. -/
def power (values : List Scalar) : Scalar :=
  if values.isEmpty then 0.0
  else
    let sum := values.foldl (fun (sum : Float) value => sum + (value * value).toFloat) 0.0
    (sum / Float.ofNat values.length).toFloat32

/-- The ratio of two powers in decibels, each raised by one so that none is zero. -/
def ratioDecibels (numerator denominator : Scalar) : Scalar :=
  10.0 * ((numerator + 1.0) / (denominator + 1.0)).log10

/-- The predicted echo and the power of the values it came from: each weight meets the
far-end value of its age, newest first. -/
def predict : Scalar → Scalar → List Scalar → List Scalar → Scalar × Scalar
  | echo, norm, weight :: weights, value :: values =>
    predict (echo + weight * value) (norm + value * value) weights values
  | echo, norm, _, _ => (echo, norm)

/-- The weights moved along the far-end values. -/
def adapt (step : Scalar) (weights values : List Scalar) : List Scalar :=
  List.zipWith (fun weight value => weight + step * value) weights values

/-- One captured sample after the filter: what is left of it and the echo it was
predicted to hold. -/
structure Residue where
  left : Scalar
  echo : Scalar

/-- Runs the filter over captured samples, each with the far-end value of its time.
`past` holds the older far-end values, newest first. -/
def filter (regularization : Scalar) :
    List Scalar → List Scalar → List (Sample × Scalar) → List Scalar × List Residue
  | weights, _, [] => (weights, [])
  | weights, past, (sample, value) :: rest =>
    let window := value :: past
    let (echo, norm) := predict 0.0 0.0 weights window
    let left := Sample.toScalar sample - echo
    let step := stepSize * left / (norm + regularization)
    let (final, residues) := filter regularization (adapt step weights window) window rest
    (final, { left, echo } :: residues)

/-- The memory of one channel. -/
structure Channel where
  weights : List Scalar
  gain : Scalar := 1.0
  /-- What was left of the last frame. -/
  left : List Scalar
  /-- The echo that was predicted for the last frame. -/
  echo : List Scalar

/-- A channel at rest. -/
def Channel.silent (taps frameLength : Nat) : Channel :=
  { weights := List.replicate taps 0.0
    left := List.replicate frameLength 0.0
    echo := List.replicate frameLength 0.0 }

/-- The channel after one frame, with its gain not yet updated. -/
def Channel.run (channel : Channel) (past : List Scalar) (near : List Sample)
    (reference : List Scalar) : Channel :=
  let regularization := regularizationPerTap * Scalar.ofCount channel.weights.length
  let (weights, residues) := filter regularization channel.weights past (near.zip reference)
  { channel with weights, left := residues.map (·.left), echo := residues.map (·.echo) }

/-- The four quality metrics: the loss of the echo path, what the canceller adds to it,
the sum of both, and what the final gain alone contributes. -/
structure Metrics where
  echoReturnLoss : Metric := {}
  enhancement : Metric := {}
  residualReturnLoss : Metric := {}
  suppressorLoss : Metric := {}

/-- The metrics after one frame with an active far end, from the powers of the far end, of
the captured frame, of what the filter left and of what was emitted. -/
def Metrics.update (metrics : Metrics) (far near left emitted : Scalar) : Metrics :=
  let returnLoss := ratioDecibels far near
  let enhancement := ratioDecibels near emitted
  { echoReturnLoss := metrics.echoReturnLoss.update returnLoss
    enhancement := metrics.enhancement.update enhancement
    residualReturnLoss := metrics.residualReturnLoss.update (returnLoss + enhancement)
    suppressorLoss := metrics.suppressorLoss.update (ratioDecibels left emitted) }

/-- The metrics as they are read. -/
structure Report where
  residualReturnLoss : Summary
  echoReturnLoss : Summary
  enhancement : Summary
  suppressorLoss : Summary

end EchoCanceller

/-- The echo canceller of the captured stream. -/
structure EchoCanceller where
  enabled : Bool := false
  suppression : EchoCanceller.Suppression := .moderate
  compensatesDrift : Bool := false
  measures : Bool := true
  /-- Rate of the sound card both streams come from. -/
  deviceHz : Nat := 48000
  /-- The drift that was reported last. -/
  drift : Int := 0
  /-- Whether a drift was reported that no capture has used yet. -/
  driftIsSet : Bool := false
  /-- Whether the last captured frame held echo. -/
  hasEcho : Bool := false
  farEnd : FarEnd := {}
  channels : List EchoCanceller.Channel := []
  metrics : EchoCanceller.Metrics := {}

namespace EchoCanceller

/-- A fresh state for a format; a disabled effect keeps what it has. -/
def prepare (effect : EchoCanceller) (format : Format) : EchoCanceller :=
  if effect.enabled then
    let farEnd := FarEnd.silent format filterMs
    { effect with
      farEnd
      channels := List.replicate format.outputChannels
        (Channel.silent farEnd.taps format.bandLength)
      metrics := {}
      hasEcho := false
      driftIsSet := false }
  else effect

/-- Takes in a far-end frame. -/
def render (effect : EchoCanceller) (audio : StreamBuffer) : Except Fault EchoCanceller :=
  if !effect.enabled then .ok effect
  else if effect.farEnd.Fits audio.bandLength then
    .ok { effect with farEnd := effect.farEnd.push (FarEnd.ofBuffer audio) }
  else .error .unspecified

/-- What one frame of the far end means for every captured channel. -/
structure Aligned where
  /-- The far-end values before the frame, newest first. -/
  past : List Scalar
  /-- The far-end values of the frame. -/
  reference : List Scalar
  /-- The power of the far-end values of the frame. -/
  power : Scalar

/-- Whether the far end is active. -/
def Aligned.isActive (aligned : Aligned) : Bool := activePower < aligned.power

/-- The far-end frame that a reported delay points at. -/
def align (farEnd : FarEnd) (frameLength : Nat) (ms : Int) : Aligned :=
  let delay := farEnd.delayOf ms
  let reference := farEnd.reference frameLength delay
  { past := farEnd.context frameLength delay, reference, power := power reference }

/-- The gain that a frame calls for. -/
def targetGain (overdrive near echo : Scalar) (farIsActive : Bool) : Scalar :=
  if farIsActive ∧ 0.0 < near then Scalar.larger (1.0 - overdrive * echo / near) minGain
  else 1.0

/-- Cancels the echo in one channel. -/
def cancelChannel (aligned : Aligned) (state : EchoCanceller × StreamBuffer) (index : Nat) :
    EchoCanceller × StreamBuffer :=
  let (effect, audio) := state
  match effect.channels[index]? with
  | none => state
  | some channel =>
    let samples := audio.lowBand index
    let filtered := channel.run aligned.past samples aligned.reference
    let near := power (samples.map Sample.toScalar)
    let echo := power filtered.echo
    let target := targetGain effect.suppression.overdrive near echo aligned.isActive
    let gain := Scalar.approach channel.gain target
    let left := power filtered.left
    let emitted := left * gain * gain
    let measured := index = 0 ∧ effect.measures ∧ aligned.isActive
    ({ effect with
        channels := effect.channels.set index { filtered with gain }
        hasEcho := effect.hasEcho || (aligned.isActive && echoShare * near < echo)
        metrics :=
          if measured then effect.metrics.update aligned.power near left emitted
          else effect.metrics },
      (audio.setLowBand index (filtered.left.map fun value => Sample.ofScalar (value * gain)))
        |>.mapHighBand index (·.map (Sample.amplify gain)))

/-- Whether a parameter that this capture needs was not given. -/
def lacksParameter (effect : EchoCanceller) (delay : StreamDelay) : Bool :=
  !delay.isSet || (effect.compensatesDrift && !effect.driftIsSet)

/-- Cancels the echo in every channel in use. -/
def capture (effect : EchoCanceller) (delay : StreamDelay) (audio : StreamBuffer) :
    Pass EchoCanceller :=
  if !effect.enabled then .done effect audio
  else if effect.lacksParameter delay then .refused .parameterNotSet effect audio
  else
    let used := { effect with driftIsSet := false }
    if used.farEnd.Fits audio.bandLength ∧ audio.channelCount ≤ used.channels.length then
      let aligned := align used.farEnd audio.bandLength delay.ms
      let (cancelled, audio) := audio.used.foldl (cancelChannel aligned)
        ({ used with hasEcho := false }, audio)
      .done cancelled audio
    else .refused .unspecified used audio

/-- Reads the quality metrics of an enabled canceller that measures. -/
def report (effect : EchoCanceller) : Except Fault Report :=
  if effect.enabled ∧ effect.measures then
    .ok
      { residualReturnLoss := effect.metrics.residualReturnLoss.summary
        echoReturnLoss := effect.metrics.echoReturnLoss.summary
        enhancement := effect.metrics.enhancement.summary
        suppressorLoss := effect.metrics.suppressorLoss.summary }
  else .error .notEnabled

/-- Sets the rate of the sound card, which has to lie within its limits. -/
def setDeviceRate (effect : EchoCanceller) (hz : Nat) : Except Fault EchoCanceller :=
  if minDeviceHz ≤ hz ∧ hz ≤ maxDeviceHz then .ok { effect with deviceHz := hz }
  else .error .badParameter

/-- Reports the clock drift for the next captured frame. -/
def setDrift (effect : EchoCanceller) (drift : Int) : EchoCanceller :=
  { effect with drift, driftIsSet := true }

/-- Turns the metrics on or off; both start them anew. -/
def setMeasures (effect : EchoCanceller) (measures : Bool) : EchoCanceller :=
  { effect with measures, metrics := {} }

end EchoCanceller

end VoiceEngine
