import VoiceEngine.Proofs.Accesses
import VoiceEngine.Proofs.Bounds

/-!
# No access leaves its storage

Every access of every call of every run is answered. Each stage is safe by the bounds that hold
when it begins; what its walk over the channels needs is kept from step to step, because no step
changes the shape of the audio or the number of channels of an effect. The arithmetic of the
far-end window needs several bounds together: the length of the history, the largest delay, the
number of taps and the length of the frame.
-/

namespace VoiceEngine

/-- A walk whose every step is answered where an invariant holds, and keeps the invariant, is
answered all along. -/
theorem allAlong_of_invariant {State : Type} {asks : State → Nat → Prop}
    {step : State → Nat → State} (Holds : State → Prop) (indices : List Nat) (state : State)
    (start : Holds state)
    (kept : ∀ state index, index ∈ indices → Holds state →
      asks state index ∧ Holds (step state index)) :
    AllAlong asks step indices state := by
  induction indices generalizing state with
  | nil => trivial
  | cons index rest inductionHypothesis =>
    obtain ⟨answered, next⟩ := kept state index List.mem_cons_self start
    refine ⟨answered, inductionHypothesis (step state index) next ?_⟩
    intro later other member
    exact kept later other (List.mem_cons_of_mem index member)

/-- A walk over the channels in use is answered when every step is, at audio like the audio at
hand and at an effect of which an invariant holds. -/
theorem allAlong_used {Effect : Type} (Holds : Effect → Prop)
    {asks : Effect × StreamBuffer → Nat → Prop}
    {step : Effect × StreamBuffer → Nat → Effect × StreamBuffer}
    (effect : Effect) (audio : StreamBuffer) (start : Holds effect)
    (kept : ∀ current (now : StreamBuffer) channel, audio.Alike now → channel ∈ now.used →
      Holds current → asks (current, now) channel ∧ Holds (step (current, now) channel).1 ∧
        now.Alike (step (current, now) channel).2) :
    AllAlong asks step audio.used (effect, audio) := by
  refine allAlong_of_invariant
    (fun state : Effect × StreamBuffer => Holds state.1 ∧ audio.Alike state.2) audio.used
    (effect, audio) ⟨start, StreamBuffer.Alike.refl audio⟩ ?_
  intro state channel member known
  have stillUsed : channel ∈ state.2.used := by
    simp only [StreamBuffer.used]
    rw [known.2.channelCount]
    exact member
  obtain ⟨answered, holds, alike⟩ := kept state.1 state.2 channel known.2 stillUsed known.1
  exact ⟨answered, holds, known.2.trans alike⟩

namespace StreamBuffer

variable {buffer : StreamBuffer} {format : Format}

/-- Shaped storage has a low band for each of its channels. -/
theorem Shaped.hasLowBand (shaped : buffer.Shaped format) {channel : Nat}
    (inside : channel < maxChannels) : buffer.HasLowBand channel := by
  refine .inr ?_
  rw [shaped.channels.1]
  exact inside

/-- A measurement of at most one band stays within shaped storage. -/
theorem Shaped.measureInRange (shaped : buffer.Shaped format) {length : Nat}
    (short : length ≤ format.bandLength) : buffer.MeasureInRange length := by
  intro channel member
  have inside := shaped.lt_of_mem_used member
  refine ⟨shaped.hasLowBand inside, ?_⟩
  rw [shaped.length_lowBand inside]
  exact short

/-- A frame of the format can be loaded into shaped storage. -/
theorem Shaped.loadInRange (shaped : buffer.Shaped format) {frame : Frame}
    (length : frame.length = format.frameLength)
    (few : 1 ≤ frame.channelCount ∧ frame.channelCount ≤ maxChannels) :
    buffer.LoadInRange frame := by
  refine ⟨few.1, ?_, length.trans shaped.frameLength.symm⟩
  rw [shaped.channels.1]
  exact few.2

/-- Shaped storage can be mixed down to one channel or more. -/
theorem Shaped.mixInRange (shaped : buffer.Shaped format) {wanted : Nat} (some_left : 1 ≤ wanted) :
    buffer.MixInRange wanted := by
  intro fewer
  have atMost := shaped.used.2
  simp only [maxChannels] at atMost
  refine ⟨by omega, ?_, ?_⟩
  · rw [shaped.channels.1]
    exact shaped.used.2
  · intro row member
    refine Nat.le_of_eq ?_
    rw [shaped.channels.2 row (List.mem_of_mem_take member),
      (shaped.channels_getElem? (by decide : 0 < maxChannels)).2]

/-- The bands of shaped storage have the lengths that the splitting filter admits. -/
theorem Shaped.bandsInRange (shaped : buffer.Shaped format) (channel : Nat) :
    buffer.BandsInRange channel := by
  intro pair found
  have split := shaped.isSplit_of_bands found
  have lengths := shaped.length_of_bands found
  have inside : channel < maxChannels := by
    have present := (List.getElem?_eq_some_iff.mp found).1
    have count : buffer.bands.length = format.splitChannels := by
      simpa only [List.length_map] using shaped.lows.1
    rw [count, Format.splitChannels, if_pos split] at present
    exact present
  have whole := (shaped.channels_getElem? inside).2
  refine ⟨by rw [shaped.channels.1]; exact inside, ?_, ?_, ?_⟩
  · rw [whole, lengths.1]
    exact Format.frameLength_of_isSplit format split
  · exact lengths.2.trans lengths.1.symm
  · rw [lengths.1]
    exact Format.bandLength_le format

/-- A snapshot of shaped storage fits into its place. -/
theorem Shaped.snapshotInRange (shaped : buffer.Shaped format) : buffer.SnapshotInRange := by
  intro channel member
  have inside := shaped.lt_of_mem_used member
  obtain ⟨row, found⟩ := shaped.snapshots.getElem?_eq_some inside
  refine ⟨shaped.hasLowBand inside, by rw [shaped.snapshots.1]; exact inside, ?_⟩
  rw [List.getD_eq_getElem?_getD, found, Option.getD_some, shaped.snapshots.of_getElem? found,
    shaped.length_lowBand inside]

/-- The storage of a format holds two channels of one frame each, and two pairs of bands of half
a frame each exactly at the highest rate. -/
structure Holds (buffer : StreamBuffer) (format : Format) : Prop where
  channelCount : buffer.channels.length = 2
  channels : ∀ row ∈ buffer.channels, row.length = format.frameLength
  bandCount : buffer.bands.length = if format.rate.hz = 32000 then 2 else 0
  bands : ∀ pair ∈ buffer.bands, 2 * pair.low.length = format.frameLength ∧
    2 * pair.high.length = format.frameLength

/-- Shaped storage is as promised. -/
theorem Shaped.holds (shaped : buffer.Shaped format) : buffer.Holds format where
  channelCount := shaped.channels.1
  channels := shaped.channels.2
  bandCount := by
    have count : buffer.bands.length = format.splitChannels := by
      simpa only [List.length_map] using shaped.lows.1
    rw [count]
    simp only [Format.splitChannels]
    cases format.rate <;> rfl
  bands := by
    intro pair member
    obtain ⟨channel, found⟩ := List.getElem?_of_mem member
    have lengths := shaped.length_of_bands found
    have whole := Format.frameLength_of_isSplit format (shaped.isSplit_of_bands found)
    rw [lengths.1, lengths.2, whole]
    exact ⟨rfl, rfl⟩

/-- Shaped storage can be stored into a frame of its length. -/
theorem Shaped.storeInRange (shaped : buffer.Shaped format) {frame : Frame}
    (length : frame.length = format.frameLength) : buffer.StoreInRange frame := by
  refine ⟨shaped.used.1, ?_, length.trans shaped.frameLength.symm⟩
  rw [shaped.channels.1]
  exact shaped.used.2

end StreamBuffer

namespace FarEnd

/-- A frame that is at most the longest delay back is part of a history that fits it. -/
theorem windowInRange {farEnd : FarEnd} {frameLength : Nat} (fits : farEnd.Fits frameLength)
    (ms : Int) : farEnd.WindowInRange frameLength (farEnd.delayOf ms) := by
  have total : farEnd.history.length = farEnd.maxDelay + farEnd.taps + frameLength := fits
  have short := delayOf_le farEnd ms
  simp only [WindowInRange, start]
  omega

/-- A frame in shaped storage can be pushed into a history that fits it. -/
theorem pushInRange {farEnd : FarEnd} {audio : StreamBuffer} {format : Format}
    (fits : farEnd.Fits audio.bandLength) (shaped : audio.Shaped format) :
    farEnd.PushInRange audio := by
  have total : farEnd.history.length = farEnd.maxDelay + farEnd.taps + audio.bandLength := fits
  exact ⟨by omega, by omega, shaped.measureInRange (Nat.le_of_eq shaped.bandLength)⟩

end FarEnd

/-- A band is long enough to be cut into blocks. -/
theorem Format.blocks_pos (format : Format) :
    0 < format.bandLength / NoiseSuppressor.blocksPerFrame := by
  simp only [Format.bandLength]
  cases format.rate <;> decide

/-- Every largest gain that can be configured is a scalar of at least zero, so the gain is always
confined to an interval with a point. -/
theorem GainControl.Bounded.zero_le_compression {effect : GainControl} (bounded : effect.Bounded) :
    (0.0 : Scalar) ≤ Float32.ofInt effect.compression := by
  have all : ∀ gain ∈ List.range 91, (0.0 : Scalar) ≤ Float32.ofInt (gain : Int) := by
    decide +kernel
  obtain ⟨above, below⟩ := bounded.compression
  simp only [compressionLimit] at below
  have listed : effect.compression.toNat ∈ List.range 91 := by
    rw [List.mem_range]
    omega
  have exact := all effect.compression.toNat listed
  rwa [Int.toNat_of_nonneg above] at exact

namespace EchoCanceller

/-- The filter of a channel of the right sizes stays within a history that fits the frame: the
frame begins late enough for all taps and ends before the history does. -/
theorem Channel.Sized.runInRange {channel : Channel} {farEnd : FarEnd} {bandLength : Nat}
    (sized : channel.Sized farEnd.taps bandLength) (fits : farEnd.Fits bandLength) (ms : Int)
    {samples : List Sample} (length : samples.length = bandLength) :
    channel.RunInRange farEnd (farEnd.start bandLength (farEnd.delayOf ms)) samples := by
  have total : farEnd.history.length = farEnd.maxDelay + farEnd.taps + bandLength := fits
  have short := FarEnd.delayOf_le farEnd ms
  intro index inside
  rw [sized.weights, sized.left, sized.echo]
  simp only [FarEnd.start]
  omega

end EchoCanceller

section Capture

variable {format : Format} {audio : StreamBuffer}

/-- Audio like shaped audio has a low band for each channel in use. -/
theorem StreamBuffer.Alike.hasLowBand {now : StreamBuffer} (same : audio.Alike now)
    (shaped : audio.Shaped format) {channel : Nat} (member : channel ∈ now.used) :
    now.HasLowBand channel :=
  (same.shaped format shaped).hasLowBand ((same.shaped format shaped).lt_of_mem_used member)

/-- The high-pass filter is safe on shaped audio. -/
theorem HighPass.captureInRange (effect : HighPass) (shaped : audio.Shaped format) :
    effect.CaptureInRange audio := by
  intro _ _
  apply allAlong_used (fun _ => True) effect audio trivial
  intro current now channel same member _
  exact ⟨same.hasLowBand shaped member, trivial, filterChannel_alike current now channel member⟩

/-- The noise suppressor is safe on shaped audio: the bands of every format are long enough to be
cut into blocks. -/
theorem NoiseSuppressor.captureInRange (effect : NoiseSuppressor) (shaped : audio.Shaped format) :
    effect.CaptureInRange audio := by
  intro _ _
  apply allAlong_used (fun _ => True) effect audio trivial
  intro current now channel same member _
  have blocks := format.blocks_pos
  rw [← shaped.bandLength] at blocks
  exact ⟨⟨same.hasLowBand shaped member, blocks⟩, trivial,
    suppressChannel_alike _ current now channel member⟩

/-- An echo canceller with the sizes of the format is safe on audio in its shape. The walk over the
channels keeps the sizes of those that still have to run. -/
theorem EchoCanceller.captureInRange {effect : EchoCanceller} (shaped : audio.Shaped format)
    (sized : effect.enabled = true → effect.SizedFor format) (delay : StreamDelay) :
    effect.CaptureInRange delay audio := by
  intro enabled _ fits enough
  have channels := (sized enabled).channels
  have fitsFormat : effect.farEnd.Fits format.bandLength := by
    rw [← shaped.bandLength]
    exact fits
  refine ⟨FarEnd.windowInRange fits delay.ms, ?_⟩
  refine allAlong_used (fun current : EchoCanceller =>
    current.channels.length = effect.channels.length ∧
      ∀ channel ∈ current.channels, channel.Sized effect.farEnd.taps format.bandLength) _ audio
    ⟨rfl, channels⟩ ?_
  intro current now index same member known
  have far := length_reference_align effect delay fits
  have past : (align effect.farEnd audio.bandLength delay.ms).past.length =
      effect.farEnd.taps - 1 :=
    FarEnd.length_context _ _ _ fits (FarEnd.delayOf_le effect.farEnd delay.ms)
  have near := (same.shaped format shaped).length_lowBand
    ((same.shaped format shaped).lt_of_mem_used member)
  refine ⟨⟨same.hasLowBand shaped member, ?_⟩, ⟨?_, ?_⟩, ?_⟩
  · have used : index < now.channelCount := List.mem_range.mp member
    have inside : index < current.channels.length := by
      rw [known.1]
      rw [same.channelCount] at used
      omega
    refine ⟨current.channels[index], List.getElem?_eq_getElem inside, ?_⟩
    have size := known.2 _ (List.getElem_mem inside)
    rw [shaped.bandLength]
    exact size.runInRange fitsFormat delay.ms near
  · simp only [cancelChannel]
    split
    · exact known.1
    · exact (List.length_set).trans known.1
  · exact sized_cancelChannel known.2 near (far.trans shaped.bandLength) past
  · exact cancelChannel_alike _ current now index member (far.trans same.bandLength.symm)

/-- Mobile echo control is safe on shaped audio. -/
theorem MobileEchoControl.captureInRange (effect : MobileEchoControl)
    (shaped : audio.Shaped format) (delay : StreamDelay) : effect.CaptureInRange delay audio := by
  intro _ _ fits enough
  refine ⟨FarEnd.windowInRange fits delay.ms, ?_⟩
  apply allAlong_used (fun current : MobileEchoControl =>
    current.channels.length = effect.channels.length) effect audio rfl
  intro current now index same member known
  have used : index < now.channelCount := List.mem_range.mp member
  refine ⟨⟨same.hasLowBand shaped member, ?_, ?_⟩, ?_,
    controlChannel_alike _ current now index member⟩
  · rw [known]
    rw [same.channelCount] at used
    omega
  · intro _
    rw [(same.shaped format shaped).snapshots.1]
    exact (same.shaped format shaped).lt_of_mem_used member
  · simp only [controlChannel]
    split
    · exact known
    · exact (List.length_set).trans known

/-- Gain control within its bounds is safe on shaped audio. -/
theorem GainControl.Bounded.captureInRange {effect : GainControl} (bounded : effect.Bounded)
    (shaped : audio.Shaped format) : effect.CaptureInRange audio := by
  intro _ _
  have step : -maxFall ≤ maxRise := by decide +kernel
  refine ⟨bounded.zero_le_compression, step, Int.le_of_lt bounded.range.2.1, ?_⟩
  apply allAlong_of_invariant (fun now : StreamBuffer => audio.Alike now) audio.used audio
    (StreamBuffer.Alike.refl audio)
  intro now channel member same
  have stillUsed : channel ∈ now.used := by
    simp only [StreamBuffer.used]
    rw [same.channelCount]
    exact member
  exact ⟨same.hasLowBand shaped stillUsed,
    same.trans (StreamBuffer.alike_amplify now channel _ stillUsed)⟩

end Capture

namespace CaptureStage

variable {rack : Rack} {format : Format} {audio : StreamBuffer}

/-- Every stage of a captured frame is safe on steady effects, an echo canceller with the sizes of
the format, and audio in its shape. -/
theorem inRange (steady : rack.Steady) (sized : rack.CancellerSized format)
    (shaped : audio.Shaped format) (delay : StreamDelay) (stage : CaptureStage) :
    stage.InRange delay rack audio := by
  cases stage with
  | highPass => exact rack.highPass.captureInRange shaped
  | measureGain =>
    intro _ channel member
    have inside := shaped.lt_of_mem_used member
    exact ⟨shaped.hasLowBand inside, by rw [shaped.channels.1]; exact inside⟩
  | echoCanceller => exact EchoCanceller.captureInRange shaped sized delay
  | snapshot => exact fun _ _ => shaped.snapshotInRange
  | noiseSuppressor => exact rack.noiseSuppressor.captureInRange shaped
  | mobileEchoControl => exact rack.mobileEchoControl.captureInRange shaped delay
  | voiceDetector => exact fun _ _ => shaped.measureInRange (Nat.le_of_eq shaped.bandLength)
  | applyGain => exact steady.gainControl.captureInRange shaped
  | levelMeter => exact fun _ => shaped.measureInRange (Nat.zero_le _)

/-- Stages in a row are safe: each keeps what the next one needs. -/
theorem eachInRange (steady : rack.Steady) (sized : rack.CancellerSized format)
    (shaped : audio.Shaped format) (delay : StreamDelay) (stages : List CaptureStage) :
    EachInRange delay stages rack audio := by
  induction stages generalizing rack audio with
  | nil => trivial
  | cons stage stages inductionHypothesis =>
    refine ⟨inRange steady sized shaped delay stage, ?_⟩
    intro _
    exact inductionHypothesis (steady.captureStage delay audio stage)
      (sized.captureStage delay shaped stage)
      ((run_alike delay rack audio stage).2.shaped format shaped)

end CaptureStage

namespace RenderStage

variable {rack : Rack} {format : Format} {audio : StreamBuffer}

/-- Every stage of a frame to the loudspeaker is safe on audio in the shape of the format. -/
theorem inRange (shaped : audio.Shaped format) (stage : RenderStage) :
    stage.InRange rack audio := by
  cases stage with
  | echoCanceller => exact fun _ fits => FarEnd.pushInRange fits shaped
  | mobileEchoControl => exact fun _ fits => FarEnd.pushInRange fits shaped
  | gainControl => exact fun _ => shaped.measureInRange (Nat.zero_le _)
  | levelMeter => exact fun _ => shaped.measureInRange (Nat.zero_le _)

/-- Stages in a row are safe, because they do not change the audio. -/
theorem eachInRange (shaped : audio.Shaped format) (stages : List RenderStage) :
    EachInRange audio stages rack := by
  induction stages generalizing rack with
  | nil => trivial
  | cons stage stages inductionHypothesis =>
    exact ⟨inRange shaped stage, fun _ _ => inductionHypothesis⟩

end RenderStage

/-- Preparing effects in a row is safe: the range of the volume always has a point. -/
theorem Rack.Steady.prepareEachInRange {rack : Rack} (steady : rack.Steady) (format : Format)
    (kinds : List EffectKind) : PrepareEachInRange format kinds rack := by
  induction kinds generalizing rack with
  | nil => trivial
  | cons kind kinds inductionHypothesis =>
    refine ⟨?_, fun next done => inductionHypothesis (steady.prepare done)⟩
    cases kind with
    | gainControl => exact fun _ => Int.le_of_lt steady.gainControl.range.2.1
    | _ => trivial

namespace Engine

variable {engine : Engine}

/-- Splitting or merging channels of shaped storage one after another is safe. -/
theorem bandsInRange_along {audio : StreamBuffer} {format : Format}
    (shaped : audio.Shaped format) (count : Nat) (few : count ≤ maxChannels) :
    AllAlong StreamBuffer.BandsInRange StreamBuffer.splitChannel (List.range count) audio ∧
      AllAlong StreamBuffer.BandsInRange StreamBuffer.mergeChannel (List.range count) audio := by
  constructor
  · refine allAlong_of_invariant (fun now : StreamBuffer => now.Shaped format) _ audio shaped ?_
    intro now channel member known
    have inside : channel < maxChannels := Nat.lt_of_lt_of_le (List.mem_range.mp member) few
    exact ⟨known.bandsInRange channel, known.splitChannel channel inside⟩
  · refine allAlong_of_invariant (fun now : StreamBuffer => now.Shaped format) _ audio shaped ?_
    intro now channel _ known
    exact ⟨known.bandsInRange channel, known.mergeChannel channel⟩

/-- Processing a matching frame is safe. -/
theorem Bounded.processInRange (bounded : engine.Bounded) {frame : Frame}
    (wellFormed : frame.WellFormed)
    (matching : engine.frameFault engine.format.inputChannels frame = none) :
    engine.ProcessInRange frame := by
  obtain ⟨leaves, fewer, arrives, -⟩ := bounded.stored.supported
  obtain ⟨-, count, length⟩ := frameFault_eq_none_iff.mp matching
  have room := bounded.stored.capturing
  have loaded := room.load frame wellFormed length (by omega)
  have mixed : (if engine.format.mixesDown then
      (engine.capturing.load frame).mixDown engine.format.outputChannels
      else engine.capturing.load frame).Shaped engine.format := by
    split
    · exact loaded.mixDown engine.format.outputChannels (by omega)
    · exact loaded
  have split := shaped_loadCaptured engine bounded.stored.supported room wellFormed matching
  refine ⟨room.loadInRange length (by omega), fun _ => loaded.mixInRange leaves,
    (bandsInRange_along mixed engine.format.inputChannels arrives).1,
    CaptureStage.eachInRange bounded.steady bounded.sized split engine.delay _, ?_⟩
  intro _
  have processed := (CaptureStage.runEach_alike engine.delay engine.rack
    (engine.loadCaptured frame) CaptureStage.order).2.shaped engine.format split
  refine ⟨(bandsInRange_along processed engine.format.outputChannels (by omega)).2, ?_⟩
  refine (processed.mergeChannels engine.format.outputChannels).storeInRange ?_
  simp only [frameInWork]
  split <;> exact length

/-- Observing a matching frame is safe. -/
theorem Bounded.observeInRange (bounded : engine.Bounded) {frame : Frame}
    (wellFormed : frame.WellFormed)
    (matching : engine.frameFault engine.format.reverseChannels frame = none) :
    engine.ObserveInRange frame := by
  obtain ⟨-, -, -, leaves, few⟩ := bounded.stored.supported
  obtain ⟨-, count, length⟩ := frameFault_eq_none_iff.mp matching
  have room := bounded.stored.rendering
  have loaded := room.load frame wellFormed length (by omega)
  have split := shaped_loadRendered engine bounded.stored.supported room wellFormed matching
  exact ⟨room.loadInRange length (by omega),
    (bandsInRange_along loaded frame.channelCount (by omega)).1,
    RenderStage.eachInRange split _⟩

/-- Every call on an engine within its bounds is safe. -/
theorem Bounded.callInRange (bounded : engine.Bounded) {call : Call}
    (wellFormed : call.WellFormed) : engine.CallInRange call := by
  have steady := bounded.steady
  cases call with
  | restart => exact steady.prepareEachInRange engine.format EffectKind.all
  | setRate hz => exact fun format _ => steady.prepareEachInRange format EffectKind.all
  | setChannels input output =>
    exact fun format _ => steady.prepareEachInRange format EffectKind.all
  | setReverseChannels channels =>
    exact fun format _ => steady.prepareEachInRange format EffectKind.all
  | enable kind enabled =>
    cases kind with
    | gainControl => exact fun _ => Int.le_of_lt steady.gainControl.range.2.1
    | _ => trivial
  | adjust setting =>
    cases setting with
    | volumeRange lowest highest =>
      intro next accepted
      simp only [GainControl.setVolumeRange] at accepted
      split at accepted
      · cases accepted
      · omega
    | _ => trivial
  | capture frame => exact bounded.processInRange wellFormed
  | render frame => exact bounded.observeInRange wellFormed
  | _ => trivial

/-- Every run of well-formed calls on an engine within its bounds is safe. -/
theorem Bounded.runInRange (bounded : engine.Bounded) (calls : List Call)
    (wellFormed : ∀ call ∈ calls, call.WellFormed) : engine.RunInRange calls := by
  induction calls generalizing engine with
  | nil => trivial
  | cons call calls inductionHypothesis =>
    have first := wellFormed call List.mem_cons_self
    refine ⟨bounded.callInRange first, inductionHypothesis (bounded.perform first) ?_⟩
    intro later member
    exact wellFormed later (List.mem_cons_of_mem call member)

/-- What the state of an engine stands for: its format, its storage and every number that it keeps
lie within the bounds that are promised. -/
structure Represented (engine : Engine) : Prop where
  captured : 1 ≤ engine.format.outputChannels ∧
    engine.format.outputChannels ≤ engine.format.inputChannels ∧ engine.format.inputChannels ≤ 2
  rendered : 1 ≤ engine.format.reverseChannels ∧ engine.format.reverseChannels ≤ 2
  capturing : engine.capturing.Holds engine.format
  rendering : engine.rendering.Holds engine.format
  delay : 0 ≤ engine.delay.ms ∧ engine.delay.ms ≤ 500
  exclusive :
    ¬ (engine.rack.echoCanceller.enabled = true ∧ engine.rack.mobileEchoControl.enabled = true)
  canceller : engine.rack.echoCanceller.enabled = true →
    engine.rack.echoCanceller.farEnd.history.length =
      (500 + 8) * engine.format.rate.bandSamplesPerMs + engine.format.bandLength ∧
    engine.rack.echoCanceller.channels.length = engine.format.outputChannels
  volumes : 0 ≤ engine.rack.gainControl.minVolume ∧
    engine.rack.gainControl.minVolume < engine.rack.gainControl.maxVolume ∧
    engine.rack.gainControl.maxVolume ≤ 65535
  recommended : engine.rack.gainControl.minVolume ≤ engine.rack.gainControl.recommended ∧
    engine.rack.gainControl.recommended ≤ engine.rack.gainControl.maxVolume
  target : 0 ≤ engine.rack.gainControl.target ∧ engine.rack.gainControl.target ≤ 31
  compression : 0 ≤ engine.rack.gainControl.compression ∧
    engine.rack.gainControl.compression ≤ 90
  windowMs : engine.rack.voiceDetector.windowMs = 10 ∨ engine.rack.voiceDetector.windowMs = 20 ∨
    engine.rack.voiceDetector.windowMs = 30
  windowFrames :
    engine.rack.voiceDetector.windowFrames * 10 < engine.rack.voiceDetector.windowMs
  hangover : engine.rack.voiceDetector.hangover ≤ 3

/-- The bounds that are kept give all that is promised. -/
theorem Bounded.represented (bounded : engine.Bounded) : engine.Represented := by
  obtain ⟨leaves, fewer, arrives, reverse⟩ := bounded.stored.supported
  have gain := bounded.steady.gainControl
  have voice := bounded.steady.voiceDetector
  exact
    { captured := ⟨leaves, fewer, arrives⟩
      rendered := reverse
      capturing := bounded.stored.capturing.holds
      rendering := bounded.stored.rendering.holds
      delay := bounded.delay
      exclusive := bounded.steady.exclusive
      canceller := by
        intro enabled
        obtain ⟨farEnd, count⟩ := (bounded.sized enabled).made
        have total : engine.rack.echoCanceller.farEnd.history.length =
            engine.rack.echoCanceller.farEnd.maxDelay + engine.rack.echoCanceller.farEnd.taps +
              engine.format.bandLength := farEnd.fits
        refine ⟨?_, count⟩
        rw [total, farEnd.maxDelay, farEnd.taps, Nat.add_mul]
        rfl
      volumes := gain.range
      recommended := gain.recommended
      target := gain.target
      compression := gain.compression
      windowMs := voice.windowMs
      windowFrames := voice.windowFrames
      hangover := voice.hangover }

/-- Every reachable engine is as promised, and no access of any later run of calls leaves its
storage. This includes engines whose last start failed and left effects that were made for an
earlier format: their own size checks refuse what they cannot hold, and the echo canceller, whose
windows depend on the format most, is prepared before any effect that can refuse. -/
theorem represented_and_safe (engine : Engine) (reached : engine.Reachable) :
    engine.Represented ∧
      ∀ calls : List Call, (∀ call ∈ calls, call.WellFormed) → engine.RunInRange calls :=
  ⟨reached.bounded.represented, fun calls => reached.bounded.runInRange calls⟩

/-- An engine with mobile echo control, noise suppression and two channels that is left at a rate
which mobile echo control refuses. -/
def stranded : Engine :=
  ((blank 0 { inputChannels := 2, outputChannels := 2 }).run
    [.enable .mobileEchoControl true, .enable .noiseSuppressor true, .setRate 32000]).2

/-- The stranded engine is as promised and safe, in particular when it takes a frame. -/
theorem represented_and_safe_stranded :
    stranded.Reachable ∧ stranded.Represented ∧
      stranded.RunInRange [.reportDelay 0, .capture (Frame.silent 32000 2 320)] := by
  have reached : stranded.Reachable :=
    ⟨{ inputChannels := 2, outputChannels := 2 },
      [.enable .mobileEchoControl true, .enable .noiseSuppressor true, .setRate 32000],
      blank 0 { inputChannels := 2, outputChannels := 2 }, rfl, by decide, rfl⟩
  obtain ⟨represented, safe⟩ := represented_and_safe stranded reached
  refine ⟨reached, represented, safe _ ?_⟩
  intro call member
  have listed : call = .reportDelay 0 ∨ call = .capture (Frame.silent 32000 2 320) := by
    simpa using member
  rcases listed with rfl | rfl
  · trivial
  · exact Frame.wellFormed_silent 32000 2 320

end Engine

end VoiceEngine
