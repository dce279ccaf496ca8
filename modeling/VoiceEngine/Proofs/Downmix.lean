import VoiceEngine.Proofs.InStep

/-!
# Mixing down

An engine that takes two channels and lets one leave is the engine for one channel, given the mean
of both. The buffer of the wide engine keeps the second channel, and at the highest rate even
splits it into bands, but only the first channel is in use. Every effect works on the channels in
use alone, so it does the same with both buffers: it leaves the same state, the same first channel
and answers alike.
-/

namespace VoiceEngine

namespace StreamBuffer

/-- One channel is in use in both buffers, and it is the same. -/
structure Single (first second : StreamBuffer) : Prop extends Lane 0 first second where
  count : first.channelCount = 1
  alsoCount : second.channelCount = 1

namespace Single

variable {first second : StreamBuffer}

/-- The channel in use is the first. -/
theorem used (known : first.Single second) : first.used = [0] ∧ second.used = [0] := by
  simp only [StreamBuffer.used, known.count, known.alsoCount]
  exact ⟨rfl, rfl⟩

/-- The low bands of the channels in use are the same. -/
theorem lowBands (known : first.Single second) : first.lowBands = second.lowBands := by
  simp only [StreamBuffer.lowBands, known.used, List.map_cons, List.map_nil, known.lowBand]

/-- Writing the low band of the channel. -/
theorem setLowBand (known : first.Single second) (samples : List Sample) :
    (first.setLowBand 0 samples).Single (second.setLowBand 0 samples) where
  toLane := known.toLane.setLowBand samples
  count := (channelCount_setLowBand first 0 samples).trans known.count
  alsoCount := (channelCount_setLowBand second 0 samples).trans known.alsoCount

/-- Changing the high band of the channel. -/
theorem mapHighBand (known : first.Single second) (change : List Sample → List Sample) :
    (first.mapHighBand 0 change).Single (second.mapHighBand 0 change) where
  toLane := known.toLane.mapHighBand change
  count := (channelCount_mapHighBand first 0 change).trans known.count
  alsoCount := (channelCount_mapHighBand second 0 change).trans known.alsoCount

/-- Taking a snapshot. -/
theorem takeSnapshot (known : first.Single second) :
    first.takeSnapshot.Single second.takeSnapshot where
  toLane := known.toLane.takeSnapshot (by rw [known.count]; exact Nat.one_pos) known.alsoCount
  count := known.count
  alsoCount := known.alsoCount

/-- Both buffers put the same frame together. -/
theorem store (known : first.Single second) {one other : Frame} (rate : one.rate = other.rate)
    (length : one.length = other.length) : first.store one = second.store other := by
  have rows : first.channels.take 1 = second.channels.take 1 := by
    rw [List.take_one, List.take_one, List.head?_eq_getElem?, List.head?_eq_getElem?,
      known.channels]
  simp only [StreamBuffer.store, Frame.withChannels, known.count, known.alsoCount, rows, rate,
    length]

end Single

end StreamBuffer

/-- Two passes end alike: with the same fault, the same effect and the same channel in use. -/
structure SamePass {Effect : Type} (first second : Pass Effect) : Prop where
  fault : first.fault = second.fault
  effect : first.effect = second.effect
  audio : first.audio.Single second.audio

namespace SamePass

variable {Effect : Type} {first second : StreamBuffer}

/-- A pass that does nothing to the audio. -/
theorem idle (fault : Option Fault) (effect : Effect) (audio : first.Single second) :
    SamePass ⟨fault, effect, first⟩ ⟨fault, effect, second⟩ := ⟨rfl, rfl, audio⟩

/-- A walk over the channels in use is one step. -/
theorem walk {step : Effect × StreamBuffer → Nat → Effect × StreamBuffer} {effect : Effect}
    (audio : first.Single second)
    (stepped : (step (effect, first) 0).1 = (step (effect, second) 0).1 ∧
      (step (effect, first) 0).2.Single (step (effect, second) 0).2) :
    SamePass
      (.done (first.used.foldl step (effect, first)).1 (first.used.foldl step (effect, first)).2)
      (.done (second.used.foldl step (effect, second)).1
        (second.used.foldl step (effect, second)).2) := by
  rw [audio.used.1, audio.used.2]
  exact ⟨rfl, stepped.1, stepped.2⟩

end SamePass

section Effects

variable {first second : StreamBuffer} (audio : first.Single second)
include audio

/-- Filtering. -/
theorem HighPass.capture_single (effect : HighPass) :
    SamePass (effect.capture first) (effect.capture second) := by
  simp only [capture, audio.count, audio.alsoCount]
  split
  · exact .idle _ _ audio
  split
  · exact .idle _ _ audio
  refine .walk audio ?_
  simp only [filterChannel, audio.lowBand]
  cases effect.filters[0]? with
  | none => exact ⟨rfl, audio⟩
  | some filter => exact ⟨rfl, audio.setLowBand _⟩

/-- Suppressing noise. -/
theorem NoiseSuppressor.capture_single (effect : NoiseSuppressor) :
    SamePass (effect.capture first) (effect.capture second) := by
  simp only [capture, audio.count, audio.alsoCount, audio.bandLength]
  split
  · exact .idle _ _ audio
  split
  · exact .idle _ _ audio
  refine .walk audio ?_
  simp only [suppressChannel, audio.lowBand]
  cases effect.channels[0]? with
  | none => exact ⟨rfl, audio⟩
  | some channel => exact ⟨rfl, (audio.setLowBand _).mapHighBand _⟩

/-- Cancelling echo. -/
theorem EchoCanceller.capture_single (effect : EchoCanceller) (delay : StreamDelay) :
    SamePass (effect.capture delay first) (effect.capture delay second) := by
  simp only [capture, audio.count, audio.alsoCount, audio.bandLength]
  split
  · exact .idle _ _ audio
  split
  · exact .idle _ _ audio
  split
  · refine .walk audio ?_
    simp only [cancelChannel, audio.lowBand]
    cases effect.channels[0]? with
    | none => exact ⟨rfl, audio⟩
    | some channel => exact ⟨rfl, (audio.setLowBand _).mapHighBand _⟩
  · exact .idle _ _ audio

/-- Controlling echo. -/
theorem MobileEchoControl.capture_single (effect : MobileEchoControl) (delay : StreamDelay) :
    SamePass (effect.capture delay first) (effect.capture delay second) := by
  simp only [capture, audio.count, audio.alsoCount, audio.bandLength]
  split
  · exact .idle _ _ audio
  split
  · exact .idle _ _ audio
  split
  · refine .walk audio ?_
    simp only [controlChannel, audio.lowBand, audio.snapshot?]
    cases effect.channels[0]? with
    | none => exact ⟨rfl, audio⟩
    | some channel => exact ⟨rfl, audio.setLowBand _⟩
  · exact .idle _ _ audio

/-- Measuring the gain. -/
theorem GainControl.measure_single (effect : GainControl) :
    effect.measure first = effect.measure second := by
  simp only [measure, audio.lowBands, audio.used, List.any_cons, List.any_nil, audio.fullBand]

/-- Applying the gain. -/
theorem GainControl.capture_single (effect : GainControl) :
    SamePass (effect.capture first) (effect.capture second) := by
  simp only [capture, audio.used, List.foldl_cons, List.foldl_nil, amplifyChannel, factor,
    audio.lowBand, audio.highBand?]
  split
  · exact .idle _ _ audio
  split
  · exact .idle _ _ audio
  simp only [StreamBuffer.amplify, StreamBuffer.mapLowBand, audio.lowBand]
  exact ⟨rfl, rfl, (audio.setLowBand _).mapHighBand _⟩

/-- Detecting voice. -/
theorem VoiceDetector.capture_single (detector : VoiceDetector) :
    detector.capture first = detector.capture second := by
  simp only [capture, mixedPower, audio.count, audio.alsoCount, audio.bandLength, audio.lowBands]

/-- Measuring the level. -/
theorem LevelMeter.capture_single (meter : LevelMeter) :
    meter.capture first = meter.capture second := by
  simp only [capture, Measurement.add, audio.used, List.foldl_cons, List.foldl_nil,
    Measurement.addChannel, audio.lowBand, audio.highBand?]

/-- Every stage. -/
theorem CaptureStage.run_single (delay : StreamDelay) (rack : Rack) (stage : CaptureStage) :
    SamePass (stage.run delay rack first) (stage.run delay rack second) := by
  cases stage with
  | highPass =>
    have same := HighPass.capture_single audio rack.highPass
    exact ⟨same.fault, congrArg (fun highPass => { rack with highPass }) same.effect, same.audio⟩
  | measureGain =>
    have same := GainControl.measure_single audio rack.gainControl
    exact ⟨rfl, congrArg (fun gainControl => { rack with gainControl }) same, audio⟩
  | echoCanceller =>
    have same := EchoCanceller.capture_single audio rack.echoCanceller delay
    exact ⟨same.fault, congrArg (fun echoCanceller => { rack with echoCanceller }) same.effect,
      same.audio⟩
  | snapshot =>
    simp only [run]
    split
    · exact .idle _ _ audio.takeSnapshot
    · exact .idle _ _ audio
  | noiseSuppressor =>
    have same := NoiseSuppressor.capture_single audio rack.noiseSuppressor
    exact ⟨same.fault, congrArg (fun noiseSuppressor => { rack with noiseSuppressor }) same.effect,
      same.audio⟩
  | mobileEchoControl =>
    have same := MobileEchoControl.capture_single audio rack.mobileEchoControl delay
    exact ⟨same.fault,
      congrArg (fun mobileEchoControl => { rack with mobileEchoControl }) same.effect, same.audio⟩
  | voiceDetector =>
    have same := VoiceDetector.capture_single audio rack.voiceDetector
    exact ⟨rfl, congrArg (fun voiceDetector => { rack with voiceDetector }) same, audio⟩
  | applyGain =>
    have same := GainControl.capture_single audio rack.gainControl
    exact ⟨same.fault, congrArg (fun gainControl => { rack with gainControl }) same.effect,
      same.audio⟩
  | levelMeter =>
    have same := LevelMeter.capture_single audio rack.levelMeter
    exact ⟨rfl, congrArg (fun levelMeter => { rack with levelMeter }) same, audio⟩

end Effects

/-- A rack of an engine with one channel leaving is prepared alike however many channels arrive. -/
theorem Rack.prepare_widened (rack : Rack) {format : Format} (single : format.outputChannels = 1)
    (kind : EffectKind) : rack.prepare (format.widened 1) kind = rack.prepare format kind := by
  obtain ⟨rate, reverse, inputs, outputs⟩ := format
  cases single
  cases kind <;> rfl

/-- An attempt ends like itself. -/
theorem SameOutcome.of_eq {Value : Type} {first second : Except Fault Value}
    (same : first = second) : SameOutcome Eq first second := by
  subst same
  cases first with
  | ok value => exact Eq.refl value
  | error fault => exact Eq.refl fault

/-- Racks of engines with one channel leaving are in step when they are equal. -/
def RackRelation.equality : RackRelation 0 1 where
  Related := Eq
  Admits _ := True
  inside := Nat.one_pos
  few := by decide
  isEnabled known kind := congrArg (Rack.isEnabled · kind) known
  prepare := by
    rintro wide narrow rfl format single kind
    exact .of_eq (wide.prepare_widened single kind)
  switch known enabled kind := congrArg (Rack.switch · enabled kind) known
  adjust known setting := .of_eq (congrArg (Rack.adjust · setting) known)
  render known audio stage := .of_eq (congrArg (RenderStage.run · audio stage) known)
  capture := by
    rintro wide narrow rfl admitted delay first second audio count single stage
    have same := CaptureStage.run_single ⟨audio, count, single⟩ delay wide stage
    exact ⟨same.fault, same.effect, same.audio.toLane, trivial⟩
  takeRendered := by
    rintro wide narrow rfl
    exact ⟨rfl, rfl⟩

/-- The mean of two samples, rounded toward negative infinity. -/
def meanSample (left right : Sample) : Sample := Word.wrap16 ((left.toInt + right.toInt) / 2)

/-- The mean of two samples is a sample. -/
theorem toInt_meanSample (left right : Sample) :
    (meanSample left right).toInt = (left.toInt + right.toInt) / 2 := by
  have leftAbove := left.le_toInt
  have leftBelow := left.toInt_lt
  have rightAbove := right.le_toInt
  have rightBelow := right.toInt_lt
  exact Word.toInt_wrap16_of_fits (by omega) (by omega)

namespace Frame

/-- The frame with one channel, the mean of the first two. -/
def mixed (frame : Frame) : Frame :=
  { frame with
    channelCount := 1
    data := List.zipWith meanSample (frame.channel 0) (frame.channel 1) }

/-- Each sample of a mixed frame is the mean of the two at its instant, rounded toward negative
infinity. -/
theorem toInt_mixed {frame : Frame} (stereo : frame.channelCount = 2) {index : Nat}
    {left right : Sample} (here : frame.data[2 * index]? = some left)
    (beside : frame.data[2 * index + 1]? = some right) :
    ∃ mean, frame.mixed.data[index]? = some mean ∧
      mean.toInt = (left.toInt + right.toInt) / 2 := by
  have first : (frame.channel 0)[index]? = some left := by
    rw [channel, stereo, getElem?_strided (by decide), ← here, Nat.zero_add]
    rfl
  have second : (frame.channel 1)[index]? = some right := by
    rw [channel, stereo, getElem?_strided (by decide), ← beside, Nat.add_comm]
    rfl
  refine ⟨meanSample left right, ?_, toInt_meanSample left right⟩
  rw [mixed, List.getElem?_zipWith, first, second]

/-- The channel of a mixed frame. -/
theorem channels_mixed (frame : Frame) :
    frame.mixed.channels = [List.zipWith meanSample (frame.channel 0) (frame.channel 1)] :=
  channels_of_mono rfl

end Frame

/-- The mean of two channels, as storage computes it. -/
theorem StreamBuffer.meanChannel_pair (first second : List Sample) :
    meanChannel [first, second] = List.zipWith meanSample first second := by
  simp only [meanChannel, List.foldl_cons, List.foldl_nil, List.map_zipWith, List.zipWith_map_left]
  rfl

namespace Call

/-- The call as an engine for one channel gets it. -/
def mixed : Call → Call
  | .capture frame => .capture frame.mixed
  | call => call

/-- A call that an engine takes whose two channels are mixed down: it does not set the channels of
the captured stream and begins no recording, and a captured frame has two channels. -/
def Stereo : Call → Prop
  | .capture frame => frame.channelCount = 2
  | .takeCapturedLevel => True
  | call => call.Shared

end Call

namespace Engine.InStep

variable {wide narrow : Engine}

/-- Loading a frame and mixing it down is loading the mixed frame. -/
theorem loadCaptured_mixed (known : InStep RackRelation.equality wide narrow) {frame : Frame}
    (stereo : frame.channelCount = 2) :
    (wide.loadCaptured frame).Single (narrow.loadCaptured frame.mixed) := by
  have mixes : wide.format.mixesDown = true := by
    simp [Format.mixesDown, known.wideInputs, known.wideOutputs]
  have whole : ¬ narrow.format.mixesDown = true := by
    simp [Format.mixesDown, known.inputs, known.single]
  have two : ¬ (wide.capturing.load frame).channelCount ≤ 1 := by
    rw [StreamBuffer.channelCount_load, stereo]
    decide
  have loaded : ((wide.capturing.load frame).mixDown 1).Lane 0
      (narrow.capturing.load frame.mixed) := by
    rw [StreamBuffer.mixDown, if_neg two]
    exact
      { bandLength := known.capturing.bandLength
        snapshotTaken := rfl
        channels := by
          simp [StreamBuffer.load, stereo, Frame.channels_of_stereo stereo, Frame.channels_mixed,
            StreamBuffer.meanChannel_pair]
        bands := known.capturing.bands
        snapshots := known.capturing.snapshots }
  simp only [loadCaptured, mixes, whole, known.wideInputs, known.wideOutputs, known.inputs, if_true]
  refine ⟨loaded.splitChannels (by decide), ?_, ?_⟩
  · rw [StreamBuffer.channelCount_splitChannels, StreamBuffer.channelCount_mixDown,
      StreamBuffer.channelCount_load, stereo]
    rfl
  · exact StreamBuffer.channelCount_splitChannels _ 1

/-- A captured frame of two channels and its mean are answered alike, and what is given back is the
same frame. -/
theorem capture_mixed (known : InStep RackRelation.equality wide narrow) {frame : Frame}
    (stereo : frame.channelCount = 2) :
    EndsInStep RackRelation.equality (wide.perform (.capture frame))
      (narrow.perform (.capture frame.mixed)) := by
  have mismatch : wide.frameFault wide.format.inputChannels frame =
      narrow.frameFault narrow.format.inputChannels frame.mixed := by
    rw [known.wideInputs, known.inputs]
    exact frameFault_congr known.rate rfl rfl (iff_of_true stereo rfl)
  simp only [perform, capture_of_idle known.idle, capture_of_idle known.alsoIdle, mismatch]
  cases narrow.frameFault narrow.format.inputChannels frame.mixed with
  | some fault => exact ⟨rfl, known⟩
  | none =>
    have loaded := known.loadCaptured_mixed stereo
    have same := known.process trivial loaded.toLane loaded.count loaded.alsoCount
    refine ⟨?_, same.state⟩
    simp only [replying, same.result]
    cases done : (narrow.process frame.mixed).1.result with
    | error fault => rfl
    | ok answer =>
      have left : (wide.process frame).1.state.capturing.Single
          (narrow.process frame.mixed).1.state.capturing :=
        ⟨same.state.capturing, (channelCount_process wide frame).trans loaded.count,
          (channelCount_process narrow frame.mixed).trans loaded.alsoCount⟩
      have final : (wide.process frame).2 = (narrow.process frame.mixed).2 := by
        rw [process_final (same.result.trans done), process_final done]
        refine left.store ?_ ?_
        · simp only [frameInWork]
          split <;> split <;> rfl
        · simp only [frameInWork]
          split <;> split <;> rfl
      rw [final]

/-- Reading the level of the captured stream. -/
theorem takeCapturedLevel_same (known : InStep RackRelation.equality wide narrow) :
    EndsInStep RackRelation.equality (takeCapturedLevel wide) (takeCapturedLevel narrow) := by
  have same : wide.rack = narrow.rack := known.rack
  simp only [takeCapturedLevel, same]
  exact ⟨rfl, { known with rack := rfl }⟩

/-- The engine for two channels that are mixed down and the engine for one answer every call alike
and stay in step. -/
theorem perform_mixed (known : InStep RackRelation.equality wide narrow) {call : Call}
    (stereo : call.Stereo) :
    EndsInStep RackRelation.equality (wide.perform call) (narrow.perform call.mixed) := by
  cases call with
  | capture frame => exact known.capture_mixed stereo
  | takeCapturedLevel => exact known.takeCapturedLevel_same.replying _
  | _ => exact known.perform_shared stereo

/-- They answer every sequence of calls alike and stay in step. -/
theorem run_mixed (known : InStep RackRelation.equality wide narrow) (calls : List Call)
    (stereo : ∀ call ∈ calls, call.Stereo) :
    (wide.run calls).1 = (narrow.run (calls.map Call.mixed)).1 ∧
      InStep RackRelation.equality (wide.run calls).2 (narrow.run (calls.map Call.mixed)).2 := by
  induction calls generalizing wide narrow with
  | nil => exact ⟨rfl, known⟩
  | cons call calls inductionHypothesis =>
    have same := known.perform_mixed (stereo call List.mem_cons_self)
    obtain ⟨answers, final⟩ := inductionHypothesis same.state
      fun later member => stereo later (List.mem_cons_of_mem call member)
    simp only [List.map_cons, Engine.run, same.result, answers]
    exact ⟨trivial, final⟩

end Engine.InStep

namespace Engine

/-- Nothing that can be asked of two engines tells them apart, other than how many channels arrive
from the microphone. -/
structure ReadsAlike (stereo mono : Engine) : Prop where
  rack : stereo.rack = mono.rack
  delay : stereo.delay = mono.delay
  format : stereo.format = mono.format.widened 1
  isRecording : stereo.isRecording = mono.isRecording

/-- Engines in step read alike. -/
theorem InStep.readsAlike {stereo mono : Engine}
    (known : InStep RackRelation.equality stereo mono) : ReadsAlike stereo mono where
  rack := known.rack
  delay := known.delay
  format := known.format
  isRecording := by rw [isRecording, isRecording, known.idle, known.alsoIdle]

/-- An engine that mixes two channels down to one is the engine for one channel, given the mean of
both: whatever is called, other than setting the channels of the captured stream and recording, both
answer every call alike, with the same frame after a capture that did not fail, and read alike
afterwards. The calls are arbitrary, so the engines read alike after every call of a run. -/
theorem run_of_mean {id other : Int} {rate : UInt32} {reverseChannels : Nat} {stereo mono : Engine}
    (made : (create
      { id, rate, inputChannels := 2, outputChannels := 1, reverseChannels }).1 = .ok stereo)
    (alsoMade : (create { id := other, rate, reverseChannels }).1 = .ok mono)
    (calls : List Call) (fit : ∀ call ∈ calls, call.Stereo) :
    (stereo.run calls).1 = (mono.run (calls.map Call.mixed)).1 ∧
      ReadsAlike (stereo.run calls).2 (mono.run (calls.map Call.mixed)).2 := by
  have start : InStep RackRelation.equality stereo mono := .of_create rfl made alsoMade
  obtain ⟨answers, final⟩ := start.run_mixed calls fit
  exact ⟨answers, final.readsAlike⟩

/-- A frame that is loud on the left and soft on the right. -/
def lopsidedFrame : Frame :=
  { rate := 16000, channelCount := 2, length := 160
    data := (List.replicate 160 [1000, -3]).flatten }

/-- A run with a capture, a change of rate that makes the frame unfit, and a frame to the
loudspeaker. -/
def lopsidedCalls : List Call :=
  [.enable .levelMeter true, .enable .highPass true, .capture lopsidedFrame, .takeCapturedLevel,
    .setRate 32000, .capture lopsidedFrame, .render (Frame.silent 32000 1 320)]

/-- The mean of the lopsided frame is an odd sum rounded down, and both engines run alike on it. -/
theorem run_of_mean_lopsided :
    lopsidedFrame.mixed.data = List.replicate 160 498 ∧
      ((blank 1 { inputChannels := 2 }).run lopsidedCalls).1 =
        ((blank 2 {}).run (lopsidedCalls.map Call.mixed)).1 ∧
      ReadsAlike ((blank 1 { inputChannels := 2 }).run lopsidedCalls).2
        ((blank 2 {}).run (lopsidedCalls.map Call.mixed)).2 := by
  have made : (create { id := 1, inputChannels := 2 }).1 = .ok (blank 1 { inputChannels := 2 }) :=
    rfl
  have alsoMade : (create { id := 2 }).1 = .ok (blank 2 {}) := rfl
  have fit : ∀ call ∈ lopsidedCalls, call.Stereo := by
    have stereo : lopsidedFrame.channelCount = 2 := rfl
    simp only [lopsidedCalls, List.forall_mem_cons, Call.Stereo, Call.Shared, stereo]
    simp
  exact ⟨by decide, run_of_mean made alsoMade lopsidedCalls fit⟩

end Engine

end VoiceEngine
