import VoiceEngine.Rack
import VoiceEngine.Proofs.Intake
import VoiceEngine.Proofs.Storage

/-!
# What an effect was made for

Four effects hold state whose size or contents belong to a format: the two echo effects, the
high-pass filter and the noise suppressor. `Rack.MadeFor` says that the state of an effect is
the one for a given format, and `Rack.Alike` that two racks are switched in the same way and
were made for the same formats. Only preparing an effect changes what it was made for. Every
stage leaves a rack alike and the audio in storage of the same shape, whether it does its work
or refuses to.
-/

namespace VoiceEngine

namespace FarEnd

/-- The history was made for a format and for a filter of so many milliseconds. -/
structure MadeFor (farEnd : FarEnd) (format : Format) (filterMs : Nat) : Prop where
  samplesPerMs : farEnd.samplesPerMs = format.rate.bandSamplesPerMs
  maxDelay : farEnd.maxDelay = maxDelayMs * format.rate.bandSamplesPerMs
  taps : farEnd.taps = filterMs * format.rate.bandSamplesPerMs
  fits : farEnd.Fits format.bandLength

/-- A silent history is made for its format. -/
theorem madeFor_silent (format : Format) (filterMs : Nat) :
    (silent format filterMs).MadeFor format filterMs :=
  ⟨rfl, rfl, rfl, fits_silent format filterMs⟩

/-- A frame contributes no more values than one band has samples. -/
theorem length_ofBuffer_le (audio : StreamBuffer) :
    (ofBuffer audio).length ≤ audio.bandLength := by
  have short : ∀ (bands : List (List Sample)) (sums : List Scalar),
      (bands.foldl (fun sums band =>
        List.zipWith (fun sum sample => sum + Sample.toScalar sample) sums band) sums).length ≤
          sums.length := by
    intro bands
    induction bands with
    | nil => exact fun sums => Nat.le_refl sums.length
    | cons band rest inductionHypothesis =>
      intro sums
      refine Nat.le_trans (inductionHypothesis _) ?_
      rw [List.length_zipWith]
      exact Nat.min_le_left _ _
  have bound := short audio.lowBands (List.replicate audio.bandLength 0.0)
  simpa only [ofBuffer, meanBand, List.length_map, List.length_replicate] using bound

/-- Taking in a frame that the history fits leaves its length. -/
theorem length_push_ofBuffer (farEnd : FarEnd) (audio : StreamBuffer)
    (fits : farEnd.Fits audio.bandLength) :
    (farEnd.push (ofBuffer audio)).history.length = farEnd.history.length := by
  have short := length_ofBuffer_le audio
  refine length_push farEnd (ofBuffer audio) ?_
  rw [fits]
  simp only [span]
  omega

/-- Taking in a frame that the history fits leaves it made for what it was made for. -/
theorem MadeFor.push {farEnd : FarEnd} {format : Format} {filterMs : Nat}
    (made : farEnd.MadeFor format filterMs) (audio : StreamBuffer)
    (fits : farEnd.Fits audio.bandLength) :
    (farEnd.push (ofBuffer audio)).MadeFor format filterMs where
  samplesPerMs := made.samplesPerMs
  maxDelay := made.maxDelay
  taps := made.taps
  fits := (length_push_ofBuffer farEnd audio fits).trans made.fits

/-- Whatever a frame does to a history, it stays made for what it was made for: an effect that is
off does not look at the frame, and one that is on takes in only a frame that fits. -/
theorem MadeFor.intake {farEnd next : FarEnd} {format : Format} {filterMs : Nat}
    (made : farEnd.MadeFor format filterMs) {enabled : Bool} {audio : StreamBuffer}
    (taken : farEnd.intake enabled audio = .ok next) : next.MadeFor format filterMs := by
  obtain ⟨fits, rfl⟩ := of_intake taken
  cases enabled with
  | false => rwa [if_neg Bool.false_ne_true, push_nil]
  | true => exact made.push audio (fits rfl)

end FarEnd

/-- The state of the high-pass filter is the one for a format: one filter for each output
channel, with the coefficients for the rate of the band. -/
def HighPass.MadeFor (effect : HighPass) (format : Format) : Prop :=
  effect.filters.length = format.outputChannels ∧
    ∀ filter ∈ effect.filters, filter.coefficients = coefficientsFor format.rate.bandHz

/-- The state of the noise suppressor is the one for a format. -/
def NoiseSuppressor.MadeFor (effect : NoiseSuppressor) (format : Format) : Prop :=
  effect.channels.length = format.outputChannels

/-- The state of the echo canceller is the one for a format. -/
def EchoCanceller.MadeFor (effect : EchoCanceller) (format : Format) : Prop :=
  effect.farEnd.MadeFor format filterMs ∧ effect.channels.length = format.outputChannels

/-- The state of the mobile echo control is the one for a format, which is not split. -/
def MobileEchoControl.MadeFor (effect : MobileEchoControl) (format : Format) : Prop :=
  format.rate.isSplit = false ∧ effect.farEnd.MadeFor format 0 ∧
    effect.channels.length = format.outputChannels

/-- Preparing does not switch the high-pass filter. -/
@[simp] theorem HighPass.enabled_prepare (effect : HighPass) (format : Format) :
    (effect.prepare format).enabled = effect.enabled := by
  simp only [prepare]
  split <;> rfl

/-- Preparing the high-pass filter makes it for the format if it is on. -/
theorem HighPass.madeFor_prepare (effect : HighPass) (format : Format)
    (enabled : effect.enabled = true) : (effect.prepare format).MadeFor format := by
  simp only [prepare]
  rw [if_pos enabled]
  refine ⟨List.length_replicate, ?_⟩
  intro filter member
  rw [List.eq_of_mem_replicate member]

/-- Preparing does not switch the noise suppressor. -/
@[simp] theorem NoiseSuppressor.enabled_prepare (effect : NoiseSuppressor) (format : Format) :
    (effect.prepare format).enabled = effect.enabled := by
  simp only [prepare]
  split <;> rfl

/-- Preparing the noise suppressor makes it for the format if it is on. -/
theorem NoiseSuppressor.madeFor_prepare (effect : NoiseSuppressor) (format : Format)
    (enabled : effect.enabled = true) : (effect.prepare format).MadeFor format := by
  simp only [prepare]
  rw [if_pos enabled]
  exact List.length_replicate

/-- Preparing does not switch the echo canceller. -/
@[simp] theorem EchoCanceller.enabled_prepare (effect : EchoCanceller) (format : Format) :
    (effect.prepare format).enabled = effect.enabled := by
  simp only [prepare]
  split <;> rfl

/-- Preparing the echo canceller makes it for the format if it is on. -/
theorem EchoCanceller.madeFor_prepare (effect : EchoCanceller) (format : Format)
    (enabled : effect.enabled = true) : (effect.prepare format).MadeFor format := by
  simp only [prepare]
  rw [if_pos enabled]
  exact ⟨FarEnd.madeFor_silent format filterMs, List.length_replicate⟩

/-- Preparing does not switch mobile echo control, and makes it for the format if it is on. -/
theorem MobileEchoControl.prepare_spec {effect next : MobileEchoControl} {format : Format}
    (done : effect.prepare format = .ok next) :
    next.enabled = effect.enabled ∧ (effect.enabled = true → next.MadeFor format) := by
  simp only [prepare] at done
  split at done
  case isTrue disabled =>
    cases done
    exact ⟨rfl, fun enabled => by simp [enabled] at disabled⟩
  case isFalse =>
    split at done
    case isTrue => cases done
    case isFalse whole =>
      cases done
      exact ⟨rfl, fun _ => ⟨Bool.eq_false_iff.mpr whole, FarEnd.madeFor_silent format 0,
        List.length_replicate⟩⟩

/-- Mobile echo control refuses to be prepared when it is on and the format is split. -/
theorem MobileEchoControl.prepare_error {effect : MobileEchoControl} {format : Format}
    {fault : Fault} (failed : effect.prepare format = .error fault) :
    effect.enabled = true ∧ format.rate.isSplit = true ∧ fault = .badSampleRate := by
  simp only [prepare] at failed
  split at failed
  case isTrue => cases failed
  case isFalse enabled =>
    split at failed
    case isTrue split =>
      cases failed
      exact ⟨by simpa using enabled, split, rfl⟩
    case isFalse => cases failed

/-- Preparing does not switch gain control. -/
@[simp] theorem GainControl.enabled_prepare (effect : GainControl) :
    effect.prepare.enabled = effect.enabled := by
  simp only [prepare]
  split <;> rfl

/-- Preparing does not switch the level meter. -/
@[simp] theorem LevelMeter.enabled_prepare (meter : LevelMeter) :
    meter.prepare.enabled = meter.enabled := by
  simp only [prepare]
  split <;> rfl

/-- Preparing does not switch the voice detector. -/
@[simp] theorem VoiceDetector.enabled_prepare (detector : VoiceDetector) :
    detector.prepare.enabled = detector.enabled := by
  simp only [prepare]
  split <;> rfl

/-- The state of an effect is the one for a format. Three effects have no state that belongs
to a format. -/
def Rack.MadeFor (rack : Rack) (format : Format) : EffectKind → Prop
  | .echoCanceller => rack.echoCanceller.MadeFor format
  | .mobileEchoControl => rack.mobileEchoControl.MadeFor format
  | .highPass => rack.highPass.MadeFor format
  | .noiseSuppressor => rack.noiseSuppressor.MadeFor format
  | .gainControl | .levelMeter | .voiceDetector => True

/-- A later rack is switched as an earlier one and made for whatever that was made for. -/
structure Rack.Alike (before after : Rack) : Prop where
  enabled : ∀ kind, after.isEnabled kind = before.isEnabled kind
  madeFor : ∀ format kind, before.MadeFor format kind → after.MadeFor format kind

/-- A rack is like itself. -/
theorem Rack.Alike.refl (rack : Rack) : rack.Alike rack := ⟨fun _ => rfl, fun _ _ => id⟩

/-- Likeness carries over. -/
theorem Rack.Alike.trans {first second third : Rack} (early : first.Alike second)
    (late : second.Alike third) : first.Alike third where
  enabled := fun kind => (late.enabled kind).trans (early.enabled kind)
  madeFor := fun format kind made => late.madeFor format kind (early.madeFor format kind made)

namespace Rack

variable (rack : Rack)

/-- A rack with another echo canceller that is switched and made as the old one is alike. -/
theorem alike_echoCanceller {effect : EchoCanceller}
    (enabled : effect.enabled = rack.echoCanceller.enabled)
    (made : ∀ format, rack.echoCanceller.MadeFor format → effect.MadeFor format) :
    rack.Alike { rack with echoCanceller := effect } := by
  constructor
  · intro kind
    cases kind <;> first | rfl | exact enabled
  · intro format kind
    cases kind <;> first | exact id | exact made format

/-- A rack with other mobile echo control that is switched and made as the old one is alike. -/
theorem alike_mobileEchoControl {effect : MobileEchoControl}
    (enabled : effect.enabled = rack.mobileEchoControl.enabled)
    (made : ∀ format, rack.mobileEchoControl.MadeFor format → effect.MadeFor format) :
    rack.Alike { rack with mobileEchoControl := effect } := by
  constructor
  · intro kind
    cases kind <;> first | rfl | exact enabled
  · intro format kind
    cases kind <;> first | exact id | exact made format

/-- A rack with another high-pass filter that is switched and made as the old one is alike. -/
theorem alike_highPass {effect : HighPass}
    (enabled : effect.enabled = rack.highPass.enabled)
    (made : ∀ format, rack.highPass.MadeFor format → effect.MadeFor format) :
    rack.Alike { rack with highPass := effect } := by
  constructor
  · intro kind
    cases kind <;> first | rfl | exact enabled
  · intro format kind
    cases kind <;> first | exact id | exact made format

/-- A rack with another noise suppressor that is switched and made as the old one is alike. -/
theorem alike_noiseSuppressor {effect : NoiseSuppressor}
    (enabled : effect.enabled = rack.noiseSuppressor.enabled)
    (made : ∀ format, rack.noiseSuppressor.MadeFor format → effect.MadeFor format) :
    rack.Alike { rack with noiseSuppressor := effect } := by
  constructor
  · intro kind
    cases kind <;> first | rfl | exact enabled
  · intro format kind
    cases kind <;> first | exact id | exact made format

/-- A rack with other gain control that is switched as the old one is alike. -/
theorem alike_gainControl {effect : GainControl}
    (enabled : effect.enabled = rack.gainControl.enabled) :
    rack.Alike { rack with gainControl := effect } := by
  constructor
  · intro kind
    cases kind <;> first | rfl | exact enabled
  · intro format kind
    cases kind <;> exact id

/-- A rack with another level meter that is switched as the old one is alike. -/
theorem alike_levelMeter {effect : LevelMeter}
    (enabled : effect.enabled = rack.levelMeter.enabled) :
    rack.Alike { rack with levelMeter := effect } := by
  constructor
  · intro kind
    cases kind <;> first | rfl | exact enabled
  · intro format kind
    cases kind <;> exact id

/-- A rack with another voice detector that is switched as the old one is alike. -/
theorem alike_voiceDetector {effect : VoiceDetector}
    (enabled : effect.enabled = rack.voiceDetector.enabled) :
    rack.Alike { rack with voiceDetector := effect } := by
  constructor
  · intro kind
    cases kind <;> first | rfl | exact enabled
  · intro format kind
    cases kind <;> exact id

end Rack

/-- A later buffer holds as many channels and as long bands as an earlier one, and has every
shape that one has. -/
structure StreamBuffer.Alike (before after : StreamBuffer) : Prop where
  channelCount : after.channelCount = before.channelCount
  bandLength : after.bandLength = before.bandLength
  shaped : ∀ format, before.Shaped format → after.Shaped format

namespace StreamBuffer

/-- A buffer is like itself. -/
theorem Alike.refl (audio : StreamBuffer) : audio.Alike audio := ⟨rfl, rfl, fun _ => id⟩

/-- Likeness carries over. -/
theorem Alike.trans {first second third : StreamBuffer} (early : first.Alike second)
    (late : second.Alike third) : first.Alike third where
  channelCount := late.channelCount.trans early.channelCount
  bandLength := late.bandLength.trans early.bandLength
  shaped := fun format shaped => late.shaped format (early.shaped format shaped)

/-- Writing as many samples into the low band of a channel in use as it had leaves a buffer
like it was. -/
theorem alike_setLowBand (audio : StreamBuffer) (channel : Nat) (samples : List Sample)
    (fits : ∀ format, audio.Shaped format → channel ∈ audio.used →
      samples.length = format.bandLength) (member : channel ∈ audio.used) :
    audio.Alike (audio.setLowBand channel samples) where
  channelCount := channelCount_setLowBand audio channel samples
  bandLength := by
    simp only [setLowBand]
    split <;> rfl
  shaped := fun format shaped => shaped.setLowBand channel samples
    (shaped.lt_of_mem_used member) (fits format shaped member)

/-- Changing a high band without changing its length leaves a buffer like it was. -/
theorem alike_mapHighBand (audio : StreamBuffer) (channel : Nat)
    (change : List Sample → List Sample)
    (keeps : ∀ samples, (change samples).length = samples.length) :
    audio.Alike (audio.mapHighBand channel change) where
  channelCount := channelCount_mapHighBand audio channel change
  bandLength := by
    simp only [mapHighBand]
    split <;> rfl
  shaped := fun _ shaped => shaped.mapHighBand channel change keeps

/-- What every step over a channel in use keeps of an effect, and leaves of the audio, the walk
over all channels in use keeps and leaves. The induction is on the channels still to come; the
channels in use stay the same because no step changes their number. -/
theorem foldl_alike {Effect : Type} (Holds : Effect → Prop)
    (step : Effect × StreamBuffer → Nat → Effect × StreamBuffer)
    (effect : Effect) (audio : StreamBuffer) (start : Holds effect)
    (kept : ∀ current (now : StreamBuffer) channel, audio.Alike now → channel ∈ now.used →
      Holds current →
      Holds (step (current, now) channel).1 ∧ now.Alike (step (current, now) channel).2) :
    Holds (audio.used.foldl step (effect, audio)).1 ∧
      audio.Alike (audio.used.foldl step (effect, audio)).2 := by
  refine List.foldlRecOn (motive := fun state : Effect × StreamBuffer =>
    Holds state.1 ∧ audio.Alike state.2) audio.used step ⟨start, Alike.refl audio⟩ ?_
  intro state known channel member
  have stillUsed : channel ∈ state.2.used := by
    simp only [used]
    rw [known.2.channelCount]
    exact member
  have next := kept state.1 state.2 channel known.2 stillUsed known.1
  exact ⟨next.1, known.2.trans next.2⟩

end StreamBuffer

end VoiceEngine
