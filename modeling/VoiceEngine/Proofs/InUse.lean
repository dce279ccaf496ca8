import VoiceEngine.Proofs.FarEndWindows

/-!
# What the stages read

The storage of a stream is not cleared between frames. What earlier frames left is overwritten where
the frame at hand needs room and stays where it does not: in channels that are not in use, in the
bands until the channels are split, and in the snapshots until one is taken.

Two buffers agree when they hold the same in the channels in use, and the same memories of the
splitting filter in all of them. `SameMemory.load`, `Loaded.mixDown` and `Loaded.splitChannels` say
that a loaded frame makes buffers agree that differed in all their samples. From there on no stage
tells them apart, and each leaves them in agreement.
-/

namespace VoiceEngine

/-- The memories of the splitting filter that belong to a pair of bands. -/
def BandPair.memories (pair : BandPair) : SplitBands.Memory × SplitBands.Memory :=
  (pair.splitting, pair.merging)

/-- Bands with the same memories are the same once those of one full band take their place. -/
theorem BandPair.splitFrom_congr {pair other : BandPair} (same : pair.memories = other.memories)
    (full : List Sample) : pair.splitFrom full = other.splitFrom full := by
  obtain ⟨splitting, merging⟩ := Prod.mk.inj same
  simp only [splitFrom, splitting, merging]

/-- Lists that begin with the same entries begin with the same fewer entries. -/
theorem take_eq_of_le {α : Type} {left right : List α} {few count : Nat}
    (same : left.take count = right.take count) (fewer : few ≤ count) :
    left.take few = right.take few := by
  rw [← Nat.min_eq_left fewer, ← List.take_take, same, List.take_take]

/-- Lists that begin with the same entries have the same ones there. -/
theorem getElem?_eq_of_take {α : Type} {left right : List α} {index count : Nat}
    (same : left.take count = right.take count) (inside : index < count) :
    left[index]? = right[index]? := by
  rw [← List.getElem?_take_of_lt inside, same, List.getElem?_take_of_lt inside]

namespace StreamBuffer

/-- Two buffers have the same sizes and the same memories of the splitting filter. They may differ
in all their samples, in how many channels are in use and in whether a snapshot was taken. -/
structure SameMemory (first second : StreamBuffer) : Prop where
  frameLength : first.frameLength = second.frameLength
  bandLength : first.bandLength = second.bandLength
  memories : first.bands.map BandPair.memories = second.bands.map BandPair.memories

/-- Two buffers hold the same frame of so many channels, which is not split yet. -/
structure Loaded (given : Nat) (first second : StreamBuffer) : Prop
    extends SameMemory first second where
  channelCount : first.channelCount = second.channelCount
  used : first.channelCount ≤ given
  channels : first.channels.take given = second.channels.take given
  fresh : first.snapshotTaken = false
  alsoFresh : second.snapshotTaken = false

/-- Two buffers hold the same in the channels in use. -/
structure Agree (inUse : Nat) (first second : StreamBuffer) : Prop
    extends SameMemory first second where
  count : first.channelCount = inUse
  alsoCount : second.channelCount = inUse
  channels : first.channels.take inUse = second.channels.take inUse
  bands : first.bands.take inUse = second.bands.take inUse
  snapshotTaken : first.snapshotTaken = second.snapshotTaken
  snapshots : first.snapshotTaken = true →
    first.snapshots.take inUse = second.snapshots.take inUse

variable {given inUse channel : Nat} {first second : StreamBuffer}

/-- A buffer has the memory that it has. -/
theorem SameMemory.refl (buffer : StreamBuffer) : buffer.SameMemory buffer := ⟨rfl, rfl, rfl⟩

/-- Loading a frame leaves nothing of the full bands before in its channels. -/
theorem SameMemory.load (known : first.SameMemory second) (frame : Frame) :
    (first.load frame).Loaded frame.channelCount (second.load frame) where
  toSameMemory := ⟨known.frameLength, known.bandLength, known.memories⟩
  channelCount := rfl
  used := Nat.le_refl frame.channelCount
  channels := by
    have present : frame.channels.length = frame.channelCount := by simp [Frame.channels]
    simp only [StreamBuffer.load, List.take_left' present]
  fresh := rfl
  alsoFresh := rfl

/-- Mixing down looks at the channels in use alone. -/
theorem Loaded.mixDown (loaded : first.Loaded given second) (wanted : Nat) :
    (first.mixDown wanted).Loaded given (second.mixDown wanted) := by
  simp only [StreamBuffer.mixDown, ← loaded.channelCount]
  split
  case isTrue => exact loaded
  case isFalse more =>
    rw [take_eq_of_le loaded.channels loaded.used]
    exact
      { loaded with
        channelCount := rfl
        used := Nat.le_trans (Nat.le_of_not_le more) loaded.used
        channels := by rw [List.take_set, List.take_set, loaded.channels] }

/-- The memories of one channel are the same. -/
theorem SameMemory.memories_getElem? (known : first.SameMemory second) (channel : Nat) :
    first.bands[channel]?.map BandPair.memories = second.bands[channel]?.map BandPair.memories := by
  rw [← List.getElem?_map, ← List.getElem?_map, known.memories]

/-- A channel that was loaded is split into the same bands, and leaves the same memories. -/
theorem Loaded.bands_splitChannels (loaded : first.Loaded given second) (inside : channel < given) :
    (first.splitChannels given).bands[channel]? =
      (second.splitChannels given).bands[channel]? := by
  have full : first.fullBand channel = second.fullBand channel := by
    simp only [fullBand, List.getD_eq_getElem?_getD, getElem?_eq_of_take loaded.channels inside]
  have same := loaded.memories_getElem? channel
  rw [(first.splitChannels_spec given).1, (second.splitChannels_spec given).1, if_pos inside,
    if_pos inside, full]
  revert same
  cases first.bands[channel]? with
  | none =>
    cases second.bands[channel]? with
    | none => exact fun _ => rfl
    | some other => rintro ⟨⟩
  | some pair =>
    cases second.bands[channel]? with
    | none => rintro ⟨⟩
    | some other =>
      intro same
      exact congrArg some (BandPair.splitFrom_congr (Option.some.inj same) _)

/-- Splitting the channels leaves nothing of their bands before. -/
theorem Loaded.splitChannels (loaded : first.Loaded given second) :
    (first.splitChannels given).Agree first.channelCount (second.splitChannels given) := by
  obtain ⟨bands, others⟩ := first.splitChannels_spec given
  obtain ⟨alsoBands, alsoOthers⟩ := second.splitChannels_spec given
  rw [others, alsoOthers]
  exact
    { frameLength := loaded.frameLength
      bandLength := loaded.bandLength
      memories := by
        refine List.ext_getElem? fun channel => ?_
        rw [List.getElem?_map, List.getElem?_map]
        by_cases inside : channel < given
        · rw [loaded.bands_splitChannels inside]
        · rw [bands, alsoBands, if_neg inside, if_neg inside, loaded.memories_getElem?]
      count := rfl
      alsoCount := loaded.channelCount.symm
      channels := take_eq_of_le loaded.channels loaded.used
      bands := by
        refine take_eq_of_le (List.ext_getElem? fun channel => ?_) loaded.used
        rw [List.getElem?_take, List.getElem?_take]
        by_cases inside : channel < given
        · rw [if_pos inside, if_pos inside, loaded.bands_splitChannels inside]
        · rw [if_neg inside, if_neg inside]
      snapshotTaken := loaded.fresh.trans loaded.alsoFresh.symm
      snapshots := by
        intro taken
        cases loaded.fresh.symm.trans taken }

/-- A step of an effect over a channel in use does the same with buffers that agree. -/
def StepsAgree {Effect : Type} (inUse : Nat)
    (step : Effect × StreamBuffer → Nat → Effect × StreamBuffer) : Prop :=
  ∀ effect {channel : Nat} {one other : StreamBuffer}, one.Agree inUse other → channel < inUse →
    (step (effect, one) channel).1 = (step (effect, other) channel).1 ∧
      (step (effect, one) channel).2.Agree inUse (step (effect, other) channel).2

namespace Agree

/-- The channels in use are the same. -/
theorem used (agree : first.Agree inUse second) : first.used = second.used := by
  rw [StreamBuffer.used, StreamBuffer.used, agree.count, agree.alsoCount]

/-- A channel in use is one of the first. -/
theorem lt_of_mem_used (agree : first.Agree inUse second) (member : channel ∈ second.used) :
    channel < inUse := by
  rw [← agree.alsoCount]
  exact List.mem_range.mp member

/-- The full band of a channel in use. -/
theorem fullBand (agree : first.Agree inUse second) (inside : channel < inUse) :
    first.fullBand channel = second.fullBand channel := by
  simp only [StreamBuffer.fullBand, List.getD_eq_getElem?_getD,
    getElem?_eq_of_take agree.channels inside]

/-- The full bands of the channels in use. -/
theorem fullBands (agree : first.Agree inUse second) :
    first.used.map first.fullBand = second.used.map second.fullBand := by
  rw [agree.used]
  exact List.map_congr_left fun channel member => agree.fullBand (agree.lt_of_mem_used member)

/-- The low band of a channel in use. -/
theorem lowBand (agree : first.Agree inUse second) (inside : channel < inUse) :
    first.lowBand channel = second.lowBand channel := by
  simp only [StreamBuffer.lowBand, getElem?_eq_of_take agree.bands inside, agree.fullBand inside]

/-- The high band of a channel in use. -/
theorem highBand? (agree : first.Agree inUse second) (inside : channel < inUse) :
    first.highBand? channel = second.highBand? channel := by
  simp only [StreamBuffer.highBand?, getElem?_eq_of_take agree.bands inside]

/-- The snapshot of a channel in use. -/
theorem snapshot? (agree : first.Agree inUse second) (inside : channel < inUse) :
    first.snapshot? channel = second.snapshot? channel := by
  simp only [StreamBuffer.snapshot?, ← agree.snapshotTaken]
  split
  case isTrue taken =>
    rw [List.getD_eq_getElem?_getD, List.getD_eq_getElem?_getD,
      getElem?_eq_of_take (agree.snapshots taken) inside]
  case isFalse => rfl

/-- The low bands of the channels in use. -/
theorem lowBands (agree : first.Agree inUse second) : first.lowBands = second.lowBands := by
  rw [StreamBuffer.lowBands, StreamBuffer.lowBands, agree.used]
  exact List.map_congr_left fun channel member => agree.lowBand (agree.lt_of_mem_used member)

/-- Writing a channel. -/
theorem setChannel (agree : first.Agree inUse second) (channel : Nat) (samples : List Sample) :
    Agree inUse { first with channels := first.channels.set channel samples }
      { second with channels := second.channels.set channel samples } :=
  { agree with channels := by rw [List.take_set, List.take_set, agree.channels] }

/-- Writing the bands of a channel. -/
theorem setBands (agree : first.Agree inUse second) (channel : Nat) (pair : BandPair) :
    Agree inUse { first with bands := first.bands.set channel pair }
      { second with bands := second.bands.set channel pair } :=
  { agree with
    memories := by rw [List.map_set, List.map_set, agree.memories]
    bands := by rw [List.take_set, List.take_set, agree.bands] }

/-- Writing the low band of a channel in use. -/
theorem setLowBand (agree : first.Agree inUse second) (inside : channel < inUse)
    (samples : List Sample) :
    (first.setLowBand channel samples).Agree inUse (second.setLowBand channel samples) := by
  simp only [StreamBuffer.setLowBand, getElem?_eq_of_take agree.bands inside]
  cases second.bands[channel]? with
  | none => exact agree.setChannel channel samples
  | some pair => exact agree.setBands channel { pair with low := samples }

/-- Changing the high band of a channel in use. -/
theorem mapHighBand (agree : first.Agree inUse second) (inside : channel < inUse)
    (change : List Sample → List Sample) :
    (first.mapHighBand channel change).Agree inUse (second.mapHighBand channel change) := by
  simp only [StreamBuffer.mapHighBand, getElem?_eq_of_take agree.bands inside]
  cases second.bands[channel]? with
  | none => exact agree
  | some pair => exact agree.setBands channel { pair with high := change pair.high }

/-- Amplifying a channel in use. -/
theorem amplify (agree : first.Agree inUse second) (inside : channel < inUse) (gain : Scalar) :
    (first.amplify channel gain).Agree inUse (second.amplify channel gain) := by
  simp only [StreamBuffer.amplify, StreamBuffer.mapLowBand, agree.lowBand inside]
  exact (agree.setLowBand inside _).mapHighBand inside _

/-- Taking a snapshot leaves nothing of the snapshots before in the channels in use. -/
theorem takeSnapshot (agree : first.Agree inUse second) :
    first.takeSnapshot.Agree inUse second.takeSnapshot := by
  have rows : second.lowBands.length = inUse := by
    simp [StreamBuffer.lowBands, StreamBuffer.used, agree.alsoCount]
  exact
    { agree with
      snapshotTaken := rfl
      snapshots := by
        intro taken
        simp only [StreamBuffer.takeSnapshot, agree.lowBands, List.take_left' rows] }

/-- Merging the channels in use. -/
theorem mergeChannels (agree : first.Agree inUse second) :
    (first.mergeChannels inUse).Agree inUse (second.mergeChannels inUse) := by
  refine List.foldl_rel agree fun channel member one other merged => ?_
  have inside : channel < inUse := List.mem_range.mp member
  simp only [mergeChannel, getElem?_eq_of_take merged.bands inside]
  cases other.bands[channel]? with
  | none => exact merged
  | some pair =>
    have full := merged.setChannel channel (SplitBands.merge pair.merging pair.low pair.high).1
    exact full.setBands channel
      { pair with merging := (SplitBands.merge pair.merging pair.low pair.high).2 }

/-- Both buffers put the same frame together. -/
theorem store (agree : first.Agree inUse second) (frame : Frame) :
    first.store frame = second.store frame := by
  rw [StreamBuffer.store, StreamBuffer.store, agree.count, agree.alsoCount, agree.channels]

/-- A walk over the channels in use. -/
theorem walk (agree : first.Agree inUse second) {Effect : Type}
    {step : Effect × StreamBuffer → Nat → Effect × StreamBuffer}
    (stepped : StepsAgree inUse step) (effect : Effect) :
    (first.used.foldl step (effect, first)).1 = (second.used.foldl step (effect, second)).1 ∧
      (first.used.foldl step (effect, first)).2.Agree inUse
        (second.used.foldl step (effect, second)).2 := by
  rw [agree.used, StreamBuffer.used, agree.alsoCount]
  refine List.foldl_rel (r := fun one other : Effect × StreamBuffer =>
    one.1 = other.1 ∧ one.2.Agree inUse other.2) ⟨rfl, agree⟩ ?_
  rintro channel member ⟨left, one⟩ ⟨right, other⟩ ⟨rfl, known⟩
  exact stepped left known (List.mem_range.mp member)

end Agree

end StreamBuffer

/-- Two passes end alike: with the same fault, the same effect and audio that agrees. -/
structure Pass.Agree {Effect : Type} (inUse : Nat) (first second : Pass Effect) : Prop where
  fault : first.fault = second.fault
  effect : first.effect = second.effect
  audio : first.audio.Agree inUse second.audio

/-- A pass that leaves the audio as it is. -/
theorem Pass.Agree.idle {Effect : Type} {inUse : Nat} {first second : StreamBuffer}
    (agree : first.Agree inUse second) (fault : Option Fault) (effect : Effect) :
    Pass.Agree inUse ⟨fault, effect, first⟩ ⟨fault, effect, second⟩ := ⟨rfl, rfl, agree⟩

/-- A part of a rack whose passes agree is put back into racks that agree. -/
theorem Pass.Agree.replace {Effect : Type} {inUse : Nat} {one other : Pass Effect}
    (same : one.Agree inUse other) (put : Effect → Rack) :
    Pass.Agree inUse ⟨one.fault, put one.effect, one.audio⟩
      ⟨other.fault, put other.effect, other.audio⟩ :=
  ⟨same.fault, congrArg put same.effect, same.audio⟩

section Steps

variable {inUse : Nat}

/-- Filtering a channel. -/
theorem HighPass.filterChannel_agree : StreamBuffer.StepsAgree inUse filterChannel := by
  intro effect channel one other agree inside
  simp only [filterChannel, agree.lowBand inside]
  cases effect.filters[channel]? with
  | none => exact ⟨rfl, agree⟩
  | some filter => exact ⟨rfl, agree.setLowBand inside _⟩

/-- Suppressing the noise of a channel. -/
theorem NoiseSuppressor.suppressChannel_agree (blockLength : Nat) :
    StreamBuffer.StepsAgree inUse (suppressChannel blockLength) := by
  intro effect channel one other agree inside
  simp only [suppressChannel, agree.lowBand inside]
  cases effect.channels[channel]? with
  | none => exact ⟨rfl, agree⟩
  | some memory => exact ⟨rfl, (agree.setLowBand inside _).mapHighBand inside _⟩

/-- Cancelling the echo in a channel. -/
theorem EchoCanceller.cancelChannel_agree (aligned : Aligned) :
    StreamBuffer.StepsAgree inUse (cancelChannel aligned) := by
  intro effect channel one other agree inside
  simp only [cancelChannel, agree.lowBand inside]
  cases effect.channels[channel]? with
  | none => exact ⟨rfl, agree⟩
  | some memory => exact ⟨rfl, (agree.setLowBand inside _).mapHighBand inside _⟩

/-- Controlling the echo in a channel. -/
theorem MobileEchoControl.controlChannel_agree (far : Scalar) :
    StreamBuffer.StepsAgree inUse (controlChannel far) := by
  intro effect channel one other agree inside
  simp only [controlChannel, agree.lowBand inside, agree.snapshot? inside]
  cases effect.channels[channel]? with
  | none => exact ⟨rfl, agree⟩
  | some memory => exact ⟨rfl, agree.setLowBand inside _⟩

end Steps

section Effects

variable {inUse : Nat} {first second : StreamBuffer} (agree : first.Agree inUse second)
include agree

/-- Filtering. -/
theorem HighPass.capture_agree (effect : HighPass) :
    (effect.capture first).Agree inUse (effect.capture second) := by
  simp only [capture, agree.count, agree.alsoCount]
  split
  · exact .idle agree _ _
  split
  · exact .idle agree _ _
  obtain ⟨filtered, audio⟩ := agree.walk filterChannel_agree effect
  exact ⟨rfl, filtered, audio⟩

/-- Suppressing noise. -/
theorem NoiseSuppressor.capture_agree (effect : NoiseSuppressor) :
    (effect.capture first).Agree inUse (effect.capture second) := by
  simp only [capture, agree.count, agree.alsoCount, agree.bandLength]
  split
  · exact .idle agree _ _
  split
  · exact .idle agree _ _
  obtain ⟨suppressed, audio⟩ := agree.walk (suppressChannel_agree _) effect
  exact ⟨rfl, suppressed, audio⟩

/-- Cancelling echo. -/
theorem EchoCanceller.capture_agree (effect : EchoCanceller) (delay : StreamDelay) :
    (effect.capture delay first).Agree inUse (effect.capture delay second) := by
  simp only [capture, agree.count, agree.alsoCount, agree.bandLength]
  split
  · exact .idle agree _ _
  split
  · exact .idle agree _ _
  split
  · obtain ⟨cancelled, audio⟩ := agree.walk (cancelChannel_agree _) _
    exact ⟨rfl, cancelled, audio⟩
  · exact .idle agree _ _

/-- Controlling echo. -/
theorem MobileEchoControl.capture_agree (effect : MobileEchoControl) (delay : StreamDelay) :
    (effect.capture delay first).Agree inUse (effect.capture delay second) := by
  simp only [capture, agree.count, agree.alsoCount, agree.bandLength]
  split
  · exact .idle agree _ _
  split
  · exact .idle agree _ _
  split
  · obtain ⟨controlled, audio⟩ := agree.walk (controlChannel_agree _) effect
    exact ⟨rfl, controlled, audio⟩
  · exact .idle agree _ _

/-- Measuring the gain. -/
theorem GainControl.measure_agree (effect : GainControl) :
    effect.measure first = effect.measure second := by
  have saturated := congrArg
    (List.any · (List.any · fun sample => decide (saturationMagnitude ≤ sample.magnitude)))
    agree.fullBands
  simp only [List.any_map, Function.comp_def] at saturated
  simp only [measure, agree.lowBands, saturated]

/-- Applying the gain. -/
theorem GainControl.capture_agree (effect : GainControl) :
    (effect.capture first).Agree inUse (effect.capture second) := by
  simp only [capture, agree.used]
  split
  · exact .idle agree _ _
  split
  · exact .idle agree _ _
  refine ⟨rfl, rfl, List.foldl_rel agree fun channel member one other known => ?_⟩
  have inside := agree.lt_of_mem_used member
  simp only [amplifyChannel, factor, known.lowBand inside, known.highBand? inside]
  exact known.amplify inside _

/-- Detecting voice. -/
theorem VoiceDetector.capture_agree (detector : VoiceDetector) :
    detector.capture first = detector.capture second := by
  simp only [capture, mixedPower, agree.count, agree.alsoCount, agree.bandLength, agree.lowBands]

/-- Measuring the level. -/
theorem LevelMeter.add_agree (measurement : Measurement) :
    measurement.add first = measurement.add second := by
  simp only [Measurement.add, agree.used]
  refine List.foldl_ext _ _ _ fun measured channel member => ?_
  have inside := agree.lt_of_mem_used member
  simp only [Measurement.addChannel, agree.lowBand inside, agree.highBand? inside]

/-- Every stage. -/
theorem CaptureStage.run_agree (delay : StreamDelay) (rack : Rack) (stage : CaptureStage) :
    (stage.run delay rack first).Agree inUse (stage.run delay rack second) := by
  cases stage with
  | highPass =>
    exact (HighPass.capture_agree agree rack.highPass).replace
      fun highPass => { rack with highPass }
  | measureGain =>
    have same := GainControl.measure_agree agree rack.gainControl
    exact ⟨rfl, congrArg (fun gainControl => { rack with gainControl }) same, agree⟩
  | echoCanceller =>
    exact (EchoCanceller.capture_agree agree rack.echoCanceller delay).replace
      fun echoCanceller => { rack with echoCanceller }
  | snapshot =>
    simp only [run]
    split
    · exact .idle agree.takeSnapshot _ _
    · exact .idle agree _ _
  | noiseSuppressor =>
    exact (NoiseSuppressor.capture_agree agree rack.noiseSuppressor).replace
      fun noiseSuppressor => { rack with noiseSuppressor }
  | mobileEchoControl =>
    exact (MobileEchoControl.capture_agree agree rack.mobileEchoControl delay).replace
      fun mobileEchoControl => { rack with mobileEchoControl }
  | voiceDetector =>
    have same := VoiceDetector.capture_agree agree rack.voiceDetector
    exact ⟨rfl, congrArg (fun voiceDetector => { rack with voiceDetector }) same, agree⟩
  | applyGain =>
    exact (GainControl.capture_agree agree rack.gainControl).replace
      fun gainControl => { rack with gainControl }
  | levelMeter =>
    refine ⟨rfl, ?_, agree⟩
    simp only [run, LevelMeter.capture, LevelMeter.add_agree agree]
    rfl

end Effects

/-- The stages of a captured frame end alike, leave the same rack and audio that agrees. -/
theorem CaptureStage.runEach_agree {inUse : Nat} {first second : StreamBuffer}
    (agree : first.Agree inUse second) (delay : StreamDelay) (stages : List CaptureStage)
    (rack : Rack) :
    (runEach delay stages rack first).1 = (runEach delay stages rack second).1 ∧
      (runEach delay stages rack first).2.1 = (runEach delay stages rack second).2.1 ∧
      (runEach delay stages rack first).2.2.Agree inUse
        (runEach delay stages rack second).2.2 := by
  induction stages generalizing rack first second with
  | nil => exact ⟨rfl, rfl, agree⟩
  | cons stage stages inductionHypothesis =>
    have same := run_agree agree delay rack stage
    simp only [runEach]
    rw [same.fault, same.effect]
    cases (stage.run delay rack second).fault with
    | none => exact inductionHypothesis same.audio _
    | some fault => exact ⟨rfl, rfl, same.audio⟩

/-- Every stage. -/
theorem RenderStage.run_agree {inUse : Nat} {first second : StreamBuffer}
    (agree : first.Agree inUse second) (rack : Rack) (stage : RenderStage) :
    stage.run rack first = stage.run rack second := by
  cases stage with
  | echoCanceller =>
    simp only [run, EchoCanceller.render, FarEnd.ofBuffer, agree.bandLength, agree.lowBands]
  | mobileEchoControl =>
    simp only [run, MobileEchoControl.render, FarEnd.ofBuffer, agree.bandLength, agree.lowBands]
  | gainControl => simp only [run, GainControl.render, agree.lowBands]
  | levelMeter => simp only [run, LevelMeter.render, LevelMeter.add_agree agree]

/-- The stages of a frame to the loudspeaker end alike and leave the same rack. -/
theorem RenderStage.runEach_agree {inUse : Nat} {first second : StreamBuffer}
    (agree : first.Agree inUse second) (stages : List RenderStage) (rack : Rack) :
    runEach first stages rack = runEach second stages rack := by
  induction stages generalizing rack with
  | nil => rfl
  | cons stage stages inductionHypothesis =>
    simp only [runEach, run_agree agree rack stage, inductionHypothesis]

end VoiceEngine
