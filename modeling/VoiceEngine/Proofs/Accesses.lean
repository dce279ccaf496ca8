import VoiceEngine.Engine.Call

/-!
# What every access asks for

An engine works on indexed storage with fixed lengths. An index can lie outside its list, a window
can begin before its history or end behind it, two blocks that are copied or filtered together can
differ in length, a block can have no length to be cut into, and a value can be confined to an
interval with no point. The definitions here collect, for every operation and in the state in
which it happens, what such an access asks for. An operation whose accesses are all answered
never leaves its storage; nothing is said here about what it computes.

The functions of an engine are total: an index that is out of range finds nothing and a window
that is too long is cut off. These definitions are therefore the only place where a missing
element is an error.
-/

namespace VoiceEngine

/-- Every step of a walk over indices is answered, each in the state that the steps before it
left. -/
def AllAlong {State : Type} (asks : State → Nat → Prop) (step : State → Nat → State) :
    List Nat → State → Prop
  | [], _ => True
  | index :: rest, state => asks state index ∧ AllAlong asks step rest (step state index)

namespace StreamBuffer

/-- The band that the effects work on can be reached: through the bands of the channel, or
through its full band. -/
def HasLowBand (buffer : StreamBuffer) (channel : Nat) : Prop :=
  channel < buffer.bands.length ∨ channel < buffer.channels.length

/-- Loading finds a channel for every channel of the frame, at least one, and room for all of its
samples. -/
def LoadInRange (buffer : StreamBuffer) (frame : Frame) : Prop :=
  1 ≤ frame.channelCount ∧ frame.channelCount ≤ buffer.channels.length ∧
    frame.length = buffer.frameLength

/-- Mixing down leads to one channel and finds a sample of every other channel for each sample of
the first. -/
def MixInRange (buffer : StreamBuffer) (wanted : Nat) : Prop :=
  wanted < buffer.channelCount → wanted = 1 ∧ buffer.channelCount ≤ buffer.channels.length ∧
    ∀ row ∈ buffer.channels.take buffer.channelCount, (buffer.fullBand 0).length ≤ row.length

/-- The splitting filter meets a full band and two bands of the lengths that it admits, in either
direction. -/
def BandsInRange (buffer : StreamBuffer) (channel : Nat) : Prop :=
  ∀ pair, buffer.bands[channel]? = some pair → channel < buffer.channels.length ∧
    SplitBands.Admitted (buffer.fullBand channel).length pair.low.length pair.high.length

/-- A snapshot finds every low band in use and a place of its length. -/
def SnapshotInRange (buffer : StreamBuffer) : Prop :=
  ∀ channel ∈ buffer.used, buffer.HasLowBand channel ∧ channel < buffer.snapshots.length ∧
    (buffer.snapshots.getD channel []).length = (buffer.lowBand channel).length

/-- Storing finds every channel in use, at least one, and a frame of its length. -/
def StoreInRange (buffer : StreamBuffer) (frame : Frame) : Prop :=
  1 ≤ buffer.channelCount ∧ buffer.channelCount ≤ buffer.channels.length ∧
    frame.length = buffer.frameLength

/-- A measurement of a number of samples finds them in the low band of every channel in use. -/
def MeasureInRange (buffer : StreamBuffer) (length : Nat) : Prop :=
  ∀ channel ∈ buffer.used,
    buffer.HasLowBand channel ∧ length ≤ (buffer.lowBand channel).length

end StreamBuffer

namespace FarEnd

/-- A frame of the far end that lies some values back is part of the history. -/
def WindowInRange (farEnd : FarEnd) (frameLength delay : Nat) : Prop :=
  frameLength + delay ≤ farEnd.history.length ∧ delay ≤ farEnd.maxDelay ∧
    farEnd.start frameLength delay + frameLength ≤ farEnd.history.length

/-- A new frame of the far end finds as many old values to push out, and each of its values the
samples that it is the mean of. -/
def PushInRange (farEnd : FarEnd) (audio : StreamBuffer) : Prop :=
  audio.bandLength ≤ farEnd.history.length ∧ farEnd.maxDelay ≤ farEnd.history.length ∧
    audio.MeasureInRange audio.bandLength

end FarEnd

/-- Filtering finds the low band of every channel in use. -/
def HighPass.CaptureInRange (effect : HighPass) (audio : StreamBuffer) : Prop :=
  effect.enabled = true → audio.channelCount ≤ effect.filters.length →
    AllAlong (fun state channel => state.2.HasLowBand channel) filterChannel audio.used
      (effect, audio)

/-- Suppressing noise cuts the low band of every channel in use into blocks that are not empty. -/
def NoiseSuppressor.CaptureInRange (effect : NoiseSuppressor) (audio : StreamBuffer) : Prop :=
  effect.enabled = true → audio.channelCount ≤ effect.channels.length →
    AllAlong (fun state channel =>
        state.2.HasLowBand channel ∧ 0 < audio.bandLength / blocksPerFrame)
      (suppressChannel (audio.bandLength / blocksPerFrame)) audio.used (effect, audio)

namespace EchoCanceller

/-- The adaptive filter finds for every sample as many far-end values as it has weights, up to
the one of the time of the sample, and a place for what is left and for the echo. -/
def Channel.RunInRange (channel : Channel) (farEnd : FarEnd) (start : Nat)
    (samples : List Sample) : Prop :=
  ∀ index, index < samples.length →
    channel.weights.length ≤ start + index + 1 ∧ start + index < farEnd.history.length ∧
      index < channel.left.length ∧ index < channel.echo.length

/-- Cancelling in a channel finds its filter, its low band and all that the filter asks for. -/
def StepInRange (farEnd : FarEnd) (start : Nat) (state : EchoCanceller × StreamBuffer)
    (index : Nat) : Prop :=
  state.2.HasLowBand index ∧ ∃ channel, state.1.channels[index]? = some channel ∧
    channel.RunInRange farEnd start (state.2.lowBand index)

/-- Taking in a far-end frame stays within the history. -/
def RenderInRange (effect : EchoCanceller) (audio : StreamBuffer) : Prop :=
  effect.enabled = true → effect.farEnd.Fits audio.bandLength →
    effect.farEnd.PushInRange audio

/-- Cancelling stays within the history and within the channels. -/
def CaptureInRange (effect : EchoCanceller) (delay : StreamDelay) (audio : StreamBuffer) : Prop :=
  effect.enabled = true → effect.lacksParameter delay = false →
    effect.farEnd.Fits audio.bandLength → audio.channelCount ≤ effect.channels.length →
      effect.farEnd.WindowInRange audio.bandLength (effect.farEnd.delayOf delay.ms) ∧
      AllAlong
        (StepInRange effect.farEnd
          (effect.farEnd.start audio.bandLength (effect.farEnd.delayOf delay.ms)))
        (cancelChannel (align effect.farEnd audio.bandLength delay.ms)) audio.used
        ({ effect with driftIsSet := false, hasEcho := false }, audio)

end EchoCanceller

namespace MobileEchoControl

/-- Attenuating a channel finds its state, its low band and its snapshot, if one was taken. -/
def StepInRange (state : MobileEchoControl × StreamBuffer) (index : Nat) : Prop :=
  state.2.HasLowBand index ∧ index < state.1.channels.length ∧
    (state.2.snapshotTaken = true → index < state.2.snapshots.length)

/-- Taking in a far-end frame stays within the history. -/
def RenderInRange (effect : MobileEchoControl) (audio : StreamBuffer) : Prop :=
  effect.enabled = true → effect.farEnd.Fits audio.bandLength →
    effect.farEnd.PushInRange audio

/-- Attenuating stays within the history and within the channels. -/
def CaptureInRange (effect : MobileEchoControl) (delay : StreamDelay) (audio : StreamBuffer) :
    Prop :=
  effect.enabled = true → delay.isSet = true → effect.farEnd.Fits audio.bandLength →
    audio.channelCount ≤ effect.channels.length →
      effect.farEnd.WindowInRange audio.bandLength (effect.farEnd.delayOf delay.ms) ∧
      AllAlong StepInRange
        (controlChannel (power (effect.farEnd.reference audio.bandLength
          (effect.farEnd.delayOf delay.ms)))) audio.used (effect, audio)

end MobileEchoControl

namespace GainControl

/-- Preparing confines the reported volume to a range with a point. -/
def PrepareInRange (effect : GainControl) : Prop :=
  effect.enabled = true → effect.minVolume ≤ effect.maxVolume

/-- Measuring finds both the low band and the full band of every channel in use. -/
def MeasureInRange (effect : GainControl) (audio : StreamBuffer) : Prop :=
  effect.enabled = true → ∀ channel ∈ audio.used,
    audio.HasLowBand channel ∧ channel < audio.channels.length

/-- Taking in a far-end frame finds the low band of every channel in use. -/
def RenderInRange (effect : GainControl) (audio : StreamBuffer) : Prop :=
  effect.enabled = true → audio.MeasureInRange 0

/-- Applying the gain confines the gain, its change and the recommended volume to intervals with
a point, and finds the low band of every channel in use. -/
def CaptureInRange (effect : GainControl) (audio : StreamBuffer) : Prop :=
  effect.enabled = true → effect.lacksVolume = false →
    (0.0 : Scalar) ≤ Float32.ofInt effect.compression ∧ -maxFall ≤ maxRise ∧
    effect.minVolume ≤ effect.maxVolume ∧
    AllAlong (fun audio channel => audio.HasLowBand channel)
      (amplifyChannel { effect with gain := effect.nextGain }
        (Level.gainOfDecibels effect.nextGain)) audio.used audio

end GainControl

/-- Hearing a frame finds every sample of the low band of every channel in use. -/
def VoiceDetector.CaptureInRange (detector : VoiceDetector) (audio : StreamBuffer) : Prop :=
  detector.enabled = true → detector.decidedOutside = false →
    audio.MeasureInRange audio.bandLength

/-- Measuring a level finds the low band of every channel in use. -/
def LevelMeter.MeasureInRange (meter : LevelMeter) (audio : StreamBuffer) : Prop :=
  meter.enabled = true → audio.MeasureInRange 0

/-- Every access of one stage of a captured frame is answered. -/
def CaptureStage.InRange (delay : StreamDelay) (rack : Rack) (audio : StreamBuffer) :
    CaptureStage → Prop
  | highPass => rack.highPass.CaptureInRange audio
  | measureGain => rack.gainControl.MeasureInRange audio
  | echoCanceller => rack.echoCanceller.CaptureInRange delay audio
  | snapshot =>
    rack.mobileEchoControl.enabled = true → rack.noiseSuppressor.enabled = true →
      audio.SnapshotInRange
  | noiseSuppressor => rack.noiseSuppressor.CaptureInRange audio
  | mobileEchoControl => rack.mobileEchoControl.CaptureInRange delay audio
  | voiceDetector => rack.voiceDetector.CaptureInRange audio
  | applyGain => rack.gainControl.CaptureInRange audio
  | levelMeter => rack.levelMeter.MeasureInRange audio

/-- Every access of stages of a captured frame is answered, up to the first that fails. -/
def CaptureStage.EachInRange (delay : StreamDelay) :
    List CaptureStage → Rack → StreamBuffer → Prop
  | [], _, _ => True
  | stage :: stages, rack, audio =>
    stage.InRange delay rack audio ∧
      ((stage.run delay rack audio).fault = none →
        EachInRange delay stages (stage.run delay rack audio).effect
          (stage.run delay rack audio).audio)

/-- Every access of one stage of a frame to the loudspeaker is answered. -/
def RenderStage.InRange (rack : Rack) (audio : StreamBuffer) : RenderStage → Prop
  | echoCanceller => rack.echoCanceller.RenderInRange audio
  | mobileEchoControl => rack.mobileEchoControl.RenderInRange audio
  | gainControl => rack.gainControl.RenderInRange audio
  | levelMeter => rack.levelMeter.MeasureInRange audio

/-- Every access of stages of a frame to the loudspeaker is answered, up to the first that
fails. -/
def RenderStage.EachInRange (audio : StreamBuffer) : List RenderStage → Rack → Prop
  | [], _ => True
  | stage :: stages, rack =>
    stage.InRange rack audio ∧
      ∀ next, stage.run rack audio = .ok next → EachInRange audio stages next

namespace Rack

/-- Every access of preparing one effect is answered. -/
def PrepareInRange (rack : Rack) : EffectKind → Prop
  | .gainControl => rack.gainControl.PrepareInRange
  | _ => True

/-- Every access of preparing effects is answered, up to the first that refuses. -/
def PrepareEachInRange (format : Format) : List EffectKind → Rack → Prop
  | [], _ => True
  | kind :: kinds, rack =>
    rack.PrepareInRange kind ∧
      ∀ next, rack.prepare format kind = .ok next → PrepareEachInRange format kinds next

/-- A new range of the volume that is accepted has a point for the recommendation. -/
def AdjustInRange (rack : Rack) : Setting → Prop
  | .volumeRange lowest highest =>
    ∀ next, rack.gainControl.setVolumeRange lowest highest = .ok next → lowest ≤ highest
  | _ => True

end Rack

namespace Engine

/-- Every access of processing a captured frame is answered: of loading it, of the stages, and of
putting it together again when no stage failed. -/
def ProcessInRange (engine : Engine) (frame : Frame) : Prop :=
  let format := engine.format
  let loaded := engine.capturing.load frame
  let mixed := if format.mixesDown then loaded.mixDown format.outputChannels else loaded
  let outcome :=
    CaptureStage.runEach engine.delay CaptureStage.order engine.rack (engine.loadCaptured frame)
  engine.capturing.LoadInRange frame ∧
    (format.mixesDown = true → loaded.MixInRange format.outputChannels) ∧
    AllAlong StreamBuffer.BandsInRange StreamBuffer.splitChannel
      (List.range format.inputChannels) mixed ∧
    CaptureStage.EachInRange engine.delay CaptureStage.order engine.rack
      (engine.loadCaptured frame) ∧
    (outcome.1 = none →
      AllAlong StreamBuffer.BandsInRange StreamBuffer.mergeChannel
        (List.range format.outputChannels) outcome.2.2 ∧
      (outcome.2.2.mergeChannels format.outputChannels).StoreInRange (engine.frameInWork frame))

/-- Every access of observing a frame to the loudspeaker is answered. -/
def ObserveInRange (engine : Engine) (frame : Frame) : Prop :=
  engine.rendering.LoadInRange frame ∧
    AllAlong StreamBuffer.BandsInRange StreamBuffer.splitChannel (List.range frame.channelCount)
      (engine.rendering.load frame) ∧
    RenderStage.EachInRange
      ((engine.rendering.load frame).splitChannels frame.channelCount) RenderStage.order
      engine.rack

/-- Every access of one call is answered. A frame that does not match the format, and one that
cannot be recorded, is not accessed. -/
def CallInRange (engine : Engine) : Call → Prop
  | .restart => Rack.PrepareEachInRange engine.format EffectKind.all engine.rack
  | .setRate hz => ∀ format, engine.format.withRate hz = .ok format →
      Rack.PrepareEachInRange format EffectKind.all engine.rack
  | .setChannels input output => ∀ format, engine.format.withChannels input output = .ok format →
      Rack.PrepareEachInRange format EffectKind.all engine.rack
  | .setReverseChannels channels =>
    ∀ format, engine.format.withReverseChannels channels = .ok format →
      Rack.PrepareEachInRange format EffectKind.all engine.rack
  | .enable kind _ => (engine.rack.switch true kind).PrepareInRange kind
  | .adjust setting => engine.rack.AdjustInRange setting
  | .capture frame =>
    engine.frameFault engine.format.inputChannels frame = none → engine.ProcessInRange frame
  | .render frame =>
    engine.frameFault engine.format.reverseChannels frame = none → engine.ObserveInRange frame
  | _ => True

/-- Every access of a run is answered, each call in the engine that the calls before it left. -/
def RunInRange (engine : Engine) : List Call → Prop
  | [] => True
  | call :: calls => engine.CallInRange call ∧ RunInRange (engine.perform call).state calls

end Engine

end VoiceEngine
