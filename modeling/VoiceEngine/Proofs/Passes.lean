import VoiceEngine.Proofs.Preparation

/-!
# What one pass keeps

No pass switches an effect or changes what its state was made for, and none changes the shape
of the audio that runs through it. The passes that walk over the channels do so because every
step writes as many samples as it read.
-/

namespace VoiceEngine

namespace HighPass

/-- A filter keeps its coefficients. -/
@[simp] theorem Filter.coefficients_run (filter : Filter) (block : List Sample) :
    (filter.run block).2.coefficients = filter.coefficients := by
  induction block generalizing filter with
  | nil => rfl
  | cons sample rest inductionHypothesis => simp [Filter.run, inductionHypothesis, Filter.advance]

/-- Putting a filter back after it ran leaves the state made for what it was made for. -/
theorem MadeFor.set {effect : HighPass} {format : Format} (made : effect.MadeFor format)
    {channel : Nat} {filter : Filter} (found : effect.filters[channel]? = some filter)
    (block : List Sample) :
    ({ effect with filters := effect.filters.set channel (filter.run block).2 } :
      HighPass).MadeFor format := by
  obtain ⟨count, current⟩ := made
  refine ⟨by rw [List.length_set, count], ?_⟩
  intro other member
  rcases List.mem_or_eq_of_mem_set member with old | rfl
  · exact current other old
  · rw [Filter.coefficients_run]
    exact current filter (List.mem_of_getElem? found)

/-- Filtering a channel in use keeps the shape of the audio. -/
theorem filterChannel_alike (effect : HighPass) (audio : StreamBuffer) (channel : Nat)
    (member : channel ∈ audio.used) :
    audio.Alike (filterChannel (effect, audio) channel).2 := by
  simp only [filterChannel]
  split
  case h_1 => exact StreamBuffer.Alike.refl audio
  case h_2 filter found =>
    refine StreamBuffer.alike_setLowBand audio channel _ ?_ member
    intro format shaped inUse
    rw [Filter.length_run, shaped.length_lowBand (shaped.lt_of_mem_used inUse)]

/-- Filtering keeps the effect switched and made as it was, and the shape of the audio. -/
theorem capture_alike (effect : HighPass) (audio : StreamBuffer) :
    ((effect.capture audio).effect.enabled = effect.enabled ∧
      ∀ format, effect.MadeFor format → (effect.capture audio).effect.MadeFor format) ∧
      audio.Alike (effect.capture audio).audio := by
  simp only [capture]
  split
  · exact ⟨⟨rfl, fun _ => id⟩, StreamBuffer.Alike.refl audio⟩
  split
  · exact ⟨⟨rfl, fun _ => id⟩, StreamBuffer.Alike.refl audio⟩
  refine StreamBuffer.foldl_alike (fun after : HighPass => after.enabled = effect.enabled ∧
    ∀ format, effect.MadeFor format → after.MadeFor format) filterChannel effect audio
    ⟨rfl, fun _ => id⟩ ?_
  intro after now channel _ member known
  refine ⟨?_, filterChannel_alike after now channel member⟩
  simp only [filterChannel]
  split
  case h_1 => exact known
  case h_2 filter found => exact ⟨known.1, fun format made => (known.2 format made).set found _⟩

end HighPass

namespace NoiseSuppressor

/-- Suppressing sub-blocks keeps the number of samples. -/
theorem Channel.length_suppress (gainFloor : Scalar) (blockLength blocks : Nat)
    (channel : Channel) (samples : List Sample) :
    (channel.suppress gainFloor blockLength blocks samples).1.length = samples.length := by
  induction blocks generalizing channel samples with
  | zero => rfl
  | succ blocks inductionHypothesis =>
    simp only [Channel.suppress, List.length_append, List.length_map, List.length_take,
      inductionHypothesis, List.length_drop]
    omega

/-- Amplifying sub-blocks keeps the number of samples. -/
theorem length_amplifyBlocks (blockLength : Nat) (gains : List Scalar) (samples : List Sample) :
    (amplifyBlocks blockLength gains samples).length = samples.length := by
  induction gains generalizing samples with
  | nil => rfl
  | cons gain gains inductionHypothesis =>
    simp only [amplifyBlocks, List.length_append, List.length_map, List.length_take,
      inductionHypothesis, List.length_drop]
    omega

/-- Suppressing the noise of a channel in use keeps the shape of the audio. -/
theorem suppressChannel_alike (blockLength : Nat) (effect : NoiseSuppressor)
    (audio : StreamBuffer) (index : Nat) (member : index ∈ audio.used) :
    audio.Alike (suppressChannel blockLength (effect, audio) index).2 := by
  simp only [suppressChannel]
  split
  case h_1 => exact StreamBuffer.Alike.refl audio
  case h_2 channel found =>
    refine StreamBuffer.Alike.trans (StreamBuffer.alike_setLowBand audio index _ ?_ member)
      (StreamBuffer.alike_mapHighBand _ index _ (length_amplifyBlocks _ _))
    intro format shaped inUse
    rw [Channel.length_suppress, shaped.length_lowBand (shaped.lt_of_mem_used inUse)]

/-- Suppressing keeps the effect switched and made as it was, and the shape of the audio. -/
theorem capture_alike (effect : NoiseSuppressor) (audio : StreamBuffer) :
    ((effect.capture audio).effect.enabled = effect.enabled ∧
      (effect.capture audio).effect.channels.length = effect.channels.length) ∧
      audio.Alike (effect.capture audio).audio := by
  simp only [capture]
  split
  · exact ⟨⟨rfl, rfl⟩, StreamBuffer.Alike.refl audio⟩
  split
  · exact ⟨⟨rfl, rfl⟩, StreamBuffer.Alike.refl audio⟩
  refine StreamBuffer.foldl_alike (fun after : NoiseSuppressor => after.enabled = effect.enabled ∧
    after.channels.length = effect.channels.length) _ effect audio ⟨rfl, rfl⟩ ?_
  intro after now index _ member known
  refine ⟨?_, suppressChannel_alike _ after now index member⟩
  simp only [suppressChannel]
  split
  case h_1 => exact known
  case h_2 => exact ⟨known.1, (List.length_set).trans known.2⟩

end NoiseSuppressor

/-- A history that holds a frame at all holds one at every delay. -/
theorem FarEnd.length_reference (farEnd : FarEnd) (frameLength delay : Nat)
    (long : frameLength ≤ farEnd.history.length) :
    (farEnd.reference frameLength delay).length = frameLength := by
  simp only [FarEnd.reference, FarEnd.start]
  rw [List.length_take, List.length_drop]
  omega

/-- A history that fits frames of one length holds at least one of them. -/
theorem FarEnd.le_of_fits {farEnd : FarEnd} {frameLength : Nat} (fits : farEnd.Fits frameLength) :
    frameLength ≤ farEnd.history.length := by
  rw [fits]
  simp only [FarEnd.span]
  omega

namespace EchoCanceller

/-- The filter leaves one residue for every sample. -/
theorem length_filter (regularization : Scalar) (weights past : List Scalar)
    (pairs : List (Sample × Scalar)) :
    (filter regularization weights past pairs).2.length = pairs.length := by
  induction pairs generalizing weights past with
  | nil => rfl
  | cons pair rest inductionHypothesis =>
    obtain ⟨sample, value⟩ := pair
    simp [filter, inductionHypothesis]

/-- A channel leaves as many samples and as much predicted echo as there were samples with a
far-end value. -/
theorem Channel.length_run (channel : Channel) (past : List Scalar) (near : List Sample)
    (reference : List Scalar) :
    (channel.run past near reference).left.length = min near.length reference.length ∧
      (channel.run past near reference).echo.length = min near.length reference.length := by
  simp [Channel.run, length_filter, List.length_zip]

/-- Cancelling in a channel in use keeps the shape of the audio when there is a far-end value for
every sample. -/
theorem cancelChannel_alike (aligned : Aligned) (effect : EchoCanceller) (audio : StreamBuffer)
    (index : Nat) (member : index ∈ audio.used)
    (enough : aligned.reference.length = audio.bandLength) :
    audio.Alike (cancelChannel aligned (effect, audio) index).2 := by
  simp only [cancelChannel]
  split
  case h_1 => exact StreamBuffer.Alike.refl audio
  case h_2 channel found =>
    refine StreamBuffer.Alike.trans (StreamBuffer.alike_setLowBand audio index _ ?_ member)
      (StreamBuffer.alike_mapHighBand _ index _ fun samples => List.length_map _)
    intro format shaped inUse
    rw [List.length_map, (Channel.length_run channel _ _ _).1,
      shaped.length_lowBand (shaped.lt_of_mem_used inUse), enough, shaped.bandLength, Nat.min_self]

/-- A history that fits the audio has a far-end value for every sample. -/
theorem length_reference_align (effect : EchoCanceller) (delay : StreamDelay) {bandLength : Nat}
    (fits : effect.farEnd.Fits bandLength) :
    (align effect.farEnd bandLength delay.ms).reference.length = bandLength :=
  FarEnd.length_reference effect.farEnd bandLength (effect.farEnd.delayOf delay.ms)
    (FarEnd.le_of_fits fits)

/-- Cancelling keeps the effect switched and made as it was, and the shape of the audio. -/
theorem capture_alike (effect : EchoCanceller) (delay : StreamDelay) (audio : StreamBuffer) :
    ((effect.capture delay audio).effect.enabled = effect.enabled ∧
      (effect.capture delay audio).effect.farEnd = effect.farEnd ∧
      (effect.capture delay audio).effect.channels.length = effect.channels.length) ∧
      audio.Alike (effect.capture delay audio).audio := by
  unfold capture
  split
  · exact ⟨⟨rfl, rfl, rfl⟩, StreamBuffer.Alike.refl audio⟩
  split
  · exact ⟨⟨rfl, rfl, rfl⟩, StreamBuffer.Alike.refl audio⟩
  dsimp only
  split
  case isFalse => exact ⟨⟨rfl, rfl, rfl⟩, StreamBuffer.Alike.refl audio⟩
  case isTrue fits =>
    refine StreamBuffer.foldl_alike (fun after : EchoCanceller =>
      after.enabled = effect.enabled ∧ after.farEnd = effect.farEnd ∧
        after.channels.length = effect.channels.length)
      (cancelChannel (align effect.farEnd audio.bandLength delay.ms)) _ audio ⟨rfl, rfl, rfl⟩ ?_
    intro after now index same member known
    have far := length_reference_align effect delay fits.1
    refine ⟨?_, cancelChannel_alike _ after now index member (far.trans same.bandLength.symm)⟩
    simp only [cancelChannel]
    split
    case h_1 => exact known
    case h_2 => exact ⟨known.1, known.2.1, (List.length_set).trans known.2.2⟩

/-- Cancelling keeps what the effect was made for. -/
theorem capture_madeFor (effect : EchoCanceller) (delay : StreamDelay) (audio : StreamBuffer)
    {format : Format} (made : effect.MadeFor format) :
    (effect.capture delay audio).effect.MadeFor format := by
  obtain ⟨-, farEnd, count⟩ := (capture_alike effect delay audio).1
  simp only [MadeFor]
  rw [farEnd, count]
  exact made

/-- A far-end frame that is taken in keeps the effect switched and made as it was. -/
theorem render_alike {effect next : EchoCanceller} {audio : StreamBuffer}
    (taken : effect.render audio = .ok next) :
    next.enabled = effect.enabled ∧ ∀ format, effect.MadeFor format → next.MadeFor format := by
  rw [render_eq] at taken
  obtain ⟨farEnd, entered, rfl⟩ := exists_of_map_eq_ok taken
  exact ⟨rfl, fun format made => ⟨made.1.intake entered, made.2⟩⟩

end EchoCanceller

namespace MobileEchoControl

/-- Filling a block keeps the number of samples. -/
theorem length_fill (gain amplitude : Scalar) (seed : UInt32) (samples : List Sample) :
    (fill gain amplitude seed samples).1.length = samples.length := by
  induction samples generalizing seed with
  | nil => rfl
  | cons sample rest inductionHypothesis => simp [fill, inductionHypothesis]

/-- Attenuating a channel in use keeps the shape of the audio. -/
theorem controlChannel_alike (far : Scalar) (effect : MobileEchoControl) (audio : StreamBuffer)
    (index : Nat) (member : index ∈ audio.used) :
    audio.Alike (controlChannel far (effect, audio) index).2 := by
  simp only [controlChannel]
  split
  case h_1 => exact StreamBuffer.Alike.refl audio
  case h_2 channel found =>
    refine StreamBuffer.alike_setLowBand audio index _ ?_ member
    intro format shaped inUse
    rw [length_fill, shaped.length_lowBand (shaped.lt_of_mem_used inUse)]

/-- Attenuating keeps the effect switched and made as it was, and the shape of the audio. -/
theorem capture_alike (effect : MobileEchoControl) (delay : StreamDelay) (audio : StreamBuffer) :
    ((effect.capture delay audio).effect.enabled = effect.enabled ∧
      (effect.capture delay audio).effect.farEnd = effect.farEnd ∧
      (effect.capture delay audio).effect.channels.length = effect.channels.length) ∧
      audio.Alike (effect.capture delay audio).audio := by
  simp only [capture]
  split
  · exact ⟨⟨rfl, rfl, rfl⟩, StreamBuffer.Alike.refl audio⟩
  split
  · exact ⟨⟨rfl, rfl, rfl⟩, StreamBuffer.Alike.refl audio⟩
  split
  case isFalse => exact ⟨⟨rfl, rfl, rfl⟩, StreamBuffer.Alike.refl audio⟩
  refine StreamBuffer.foldl_alike (fun after : MobileEchoControl =>
    after.enabled = effect.enabled ∧ after.farEnd = effect.farEnd ∧
      after.channels.length = effect.channels.length) _ effect audio ⟨rfl, rfl, rfl⟩ ?_
  intro after now index _ member known
  refine ⟨?_, controlChannel_alike _ after now index member⟩
  simp only [controlChannel]
  split
  case h_1 => exact known
  case h_2 => exact ⟨known.1, known.2.1, (List.length_set).trans known.2.2⟩

/-- Attenuating keeps what the effect was made for. -/
theorem capture_madeFor (effect : MobileEchoControl) (delay : StreamDelay) (audio : StreamBuffer)
    {format : Format} (made : effect.MadeFor format) :
    (effect.capture delay audio).effect.MadeFor format := by
  obtain ⟨-, farEnd, count⟩ := (capture_alike effect delay audio).1
  simp only [MadeFor]
  rw [farEnd, count]
  exact made

/-- A far-end frame that is taken in keeps the effect switched and made as it was. -/
theorem render_alike {effect next : MobileEchoControl} {audio : StreamBuffer}
    (taken : effect.render audio = .ok next) :
    next.enabled = effect.enabled ∧ ∀ format, effect.MadeFor format → next.MadeFor format := by
  rw [render_eq] at taken
  obtain ⟨farEnd, entered, rfl⟩ := exists_of_map_eq_ok taken
  exact ⟨rfl, fun format made => ⟨made.1, made.2.1.intake entered, made.2.2⟩⟩

end MobileEchoControl

/-- Amplifying a channel in use leaves a buffer like it was. -/
theorem StreamBuffer.alike_amplify (audio : StreamBuffer) (channel : Nat) (gain : Scalar)
    (member : channel ∈ audio.used) : audio.Alike (audio.amplify channel gain) := by
  refine StreamBuffer.Alike.trans (StreamBuffer.alike_setLowBand audio channel _ ?_ member)
    (StreamBuffer.alike_mapHighBand _ channel _ fun samples => List.length_map _)
  intro format shaped inUse
  rw [List.length_map, shaped.length_lowBand (shaped.lt_of_mem_used inUse)]

namespace GainControl

/-- Measuring does not switch the effect. -/
@[simp] theorem enabled_measure (effect : GainControl) (audio : StreamBuffer) :
    (effect.measure audio).enabled = effect.enabled := by
  simp only [measure]
  split <;> rfl

/-- Taking in a far-end frame does not switch the effect. -/
@[simp] theorem enabled_render (effect : GainControl) (audio : StreamBuffer) :
    (effect.render audio).enabled = effect.enabled := by
  simp only [render]
  split <;> rfl

/-- Applying the gain does not switch the effect and keeps the shape of the audio. -/
theorem capture_alike (effect : GainControl) (audio : StreamBuffer) :
    (effect.capture audio).effect.enabled = effect.enabled ∧
      audio.Alike (effect.capture audio).audio := by
  simp only [capture]
  split
  · exact ⟨rfl, StreamBuffer.Alike.refl audio⟩
  split
  · exact ⟨rfl, StreamBuffer.Alike.refl audio⟩
  constructor
  · simp only [Pass.done]
    split <;> rfl
  · refine List.foldlRecOn (motive := fun now : StreamBuffer => audio.Alike now) audio.used _
      (StreamBuffer.Alike.refl audio) ?_
    intro now known channel member
    have inUse : channel < now.channelCount := by
      rw [known.channelCount]
      exact List.mem_range.mp member
    exact known.trans (StreamBuffer.alike_amplify now channel _ (List.mem_range.mpr inUse))

end GainControl

namespace VoiceDetector

/-- Hearing a frame does not switch the detector. -/
@[simp] theorem enabled_capture (detector : VoiceDetector) (audio : StreamBuffer) :
    (detector.capture audio).enabled = detector.enabled := by
  simp only [capture]
  split
  · rfl
  split
  · rfl
  simp only [collect, decide, conclude]
  repeat' split
  all_goals rfl

end VoiceDetector

namespace LevelMeter

/-- Measuring the captured stream does not switch the meter. -/
@[simp] theorem enabled_capture (meter : LevelMeter) (audio : StreamBuffer) :
    (meter.capture audio).enabled = meter.enabled := by
  simp only [capture]
  split <;> rfl

/-- Measuring the stream to the loudspeaker does not switch the meter. -/
@[simp] theorem enabled_render (meter : LevelMeter) (audio : StreamBuffer) :
    (meter.render audio).enabled = meter.enabled := by
  simp only [render]
  split <;> rfl

/-- Reading the captured level does not switch the meter. -/
@[simp] theorem enabled_takeCaptured (meter : LevelMeter) :
    meter.takeCaptured.2.enabled = meter.enabled := by
  simp only [takeCaptured]
  split <;> rfl

/-- Reading the level of the stream to the loudspeaker does not switch the meter. -/
@[simp] theorem enabled_takeRendered (meter : LevelMeter) :
    meter.takeRendered.2.enabled = meter.enabled := by
  simp only [takeRendered]
  split <;> rfl

end LevelMeter

end VoiceEngine
