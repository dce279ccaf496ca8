import VoiceEngine.Proofs.InStep
import VoiceEngine.Proofs.Preparation

/-!
# Effects channel by channel

Four effects keep a memory for every channel that leaves, the others keep nothing of that kind. What
an effect keeps besides is shared by all channels, and of that some parts are left out here, because
no channel and no answer to a call that sets, switches, prepares or runs an effect depends on them:
metrics, the flag for echo, the level of the captured stream, and all but the settings of the gain
control and the voice detector.

The state of an effect for two channels follows a lane of the state for one channel when the shared
parts are equal and the memory of the lane is the memory of the one channel. Every effect works
channel by channel, and its pass over both channels leaves states that follow the lane again. Two
effects do so only under a condition: mobile echo control must not draw comfort noise, for which all
channels use one generator, and the gain control must have a fixed gain, because it would otherwise
adapt to the level of all channels together.
-/

namespace VoiceEngine

/-- What an effect keeps for all channels together, and its memory for each of them. -/
class PerChannel (State : Type) where
  Memory : Type
  /-- The state without the memories and without what no channel depends on. -/
  shared : State → State
  memories : State → List Memory

/-- A wide state follows a lane of a narrow one: it has twice as many memories, the one of the lane
is the first of the narrow state, and everything else is shared. The memory of the other channel is
arbitrary, which is what makes the lanes independent. -/
structure AlongLane {State : Type} [PerChannel State] (lane : Nat) (wide narrow : State) :
    Prop where
  shared : PerChannel.shared wide = PerChannel.shared narrow
  count : (PerChannel.memories wide).length = 2 * (PerChannel.memories narrow).length
  memory : (PerChannel.memories wide)[lane]? = (PerChannel.memories narrow)[0]?

/-- A setter changes the shared part by the shared part alone, and no memory of a channel. -/
structure Setter.ChangesShared {State : Type} [PerChannel State] (setter : Setter State) : Prop
    extends setter.Respects PerChannel.shared where
  kept : ∀ state, PerChannel.memories (setter.work state) = PerChannel.memories state

namespace AlongLane

variable {State : Type} [PerChannel State] {lane other : Nat} {wide narrow next alsoNext : State}

/-- A change of the shared part. -/
theorem change (work : State → State) (known : AlongLane lane wide narrow)
    (settled : ∀ state, PerChannel.shared (work state) =
      PerChannel.shared (work (PerChannel.shared state)))
    (kept : ∀ state, PerChannel.memories (work state) = PerChannel.memories state) :
    AlongLane lane (work wide) (work narrow) where
  shared := by rw [settled wide, settled narrow, known.shared]
  count := by rw [kept, kept, known.count]
  memory := by rw [kept, kept, known.memory]

/-- A setter that changes the shared part alone ends alike: the wide state and the narrow one share
what it looks at, so it takes the value in both or in neither. -/
theorem set {setter : Setter State} (known : AlongLane lane wide narrow)
    (changes : setter.ChangesShared) :
    SameOutcome (AlongLane lane) (setter.apply wide) (setter.apply narrow) := by
  apply Setter.apply_related
  · rw [changes.allows wide, changes.allows narrow, known.shared]
  · exact known.change setter.work changes.settled changes.kept

/-- An attempt that does not depend on the state, and a change of the shared part by what it gives,
end alike. Far-end frames are taken in like this: the history they enter is shared. -/
theorem attempt {Value : Type} (known : AlongLane lane wide narrow) (tried : Except Fault Value)
    (place : State → Value → State)
    (settled : ∀ state value, PerChannel.shared (place state value) =
      PerChannel.shared (place (PerChannel.shared state) value))
    (kept : ∀ state value, PerChannel.memories (place state value) = PerChannel.memories state) :
    SameOutcome (AlongLane lane) (tried.map (place wide)) (tried.map (place narrow)) := by
  cases tried with
  | error fault => rfl
  | ok value =>
    exact known.change (place · value) (fun state => settled state value)
      fun state => kept state value

/-- A change of what is left out of account, by which neither the shared part nor a memory is
touched. -/
theorem of_same (known : AlongLane lane wide narrow)
    (shared : PerChannel.shared next = PerChannel.shared wide)
    (alsoShared : PerChannel.shared alsoNext = PerChannel.shared narrow)
    (kept : PerChannel.memories next = PerChannel.memories wide)
    (alsoKept : PerChannel.memories alsoNext = PerChannel.memories narrow) :
    AlongLane lane next alsoNext where
  shared := by rw [shared, alsoShared, known.shared]
  count := by rw [kept, alsoKept, known.count]
  memory := by rw [kept, alsoKept, known.memory]

/-- Another memory for the channel, the same one in both states. -/
theorem store (known : AlongLane lane wide narrow) (entry : PerChannel.Memory State)
    (shared : PerChannel.shared next = PerChannel.shared wide)
    (alsoShared : PerChannel.shared alsoNext = PerChannel.shared narrow)
    (stored : PerChannel.memories next = (PerChannel.memories wide).set lane entry)
    (alsoStored : PerChannel.memories alsoNext = (PerChannel.memories narrow).set 0 entry) :
    AlongLane lane next alsoNext where
  shared := by rw [shared, alsoShared, known.shared]
  count := by rw [stored, alsoStored, List.length_set, List.length_set, known.count]
  memory := by
    rw [stored, alsoStored]
    exact getElem?_set_lane known.memory entry

/-- Another memory for another channel. The narrow state has no such channel and stays as it is. -/
theorem store_elsewhere (known : AlongLane lane wide narrow) (different : other ≠ lane)
    (entry : PerChannel.Memory State) (shared : PerChannel.shared next = PerChannel.shared wide)
    (stored : PerChannel.memories next = (PerChannel.memories wide).set other entry) :
    AlongLane lane next narrow where
  shared := shared.trans known.shared
  count := by rw [stored, List.length_set, known.count]
  memory := by rw [stored, List.getElem?_set_ne different, known.memory]

/-- Fresh memories. All are equal, so any lane follows. -/
theorem fresh (inside : lane < 2) (shared : PerChannel.shared wide = PerChannel.shared narrow)
    (entry : PerChannel.Memory State) (both : PerChannel.memories wide = List.replicate 2 entry)
    (single : PerChannel.memories narrow = List.replicate 1 entry) :
    AlongLane lane wide narrow where
  shared
  count := by rw [both, single]; rfl
  memory := by
    rw [both, single]
    exact getElem?_replicate_lane inside Nat.one_pos entry

/-- Two channels find a memory each when one channel finds one. -/
theorem reaches_iff (known : AlongLane lane wide narrow) {first second : StreamBuffer}
    (both : first.channelCount = 2) (single : second.channelCount = 1) :
    first.channelCount ≤ (PerChannel.memories wide).length ↔
      second.channelCount ≤ (PerChannel.memories narrow).length := by
  rw [known.count, both, single]
  omega

end AlongLane

section Instances

instance : PerChannel EchoCanceller where
  Memory := EchoCanceller.Channel
  shared effect := { effect with channels := [], hasEcho := false, metrics := {} }
  memories := EchoCanceller.channels

instance : PerChannel MobileEchoControl where
  Memory := MobileEchoControl.Channel
  shared effect := { effect with channels := [] }
  memories := MobileEchoControl.channels

instance : PerChannel HighPass where
  Memory := HighPass.Filter
  shared effect := { effect with filters := [] }
  memories := HighPass.filters

instance : PerChannel NoiseSuppressor where
  Memory := NoiseSuppressor.Channel
  shared effect := { effect with channels := [] }
  memories := NoiseSuppressor.channels

instance : PerChannel GainControl where
  Memory := Empty
  shared := Configurable.settings
  memories _ := []

instance : PerChannel LevelMeter where
  Memory := Empty
  shared meter := { meter with captured := {} }
  memories _ := []

instance : PerChannel VoiceDetector where
  Memory := Empty
  shared := Configurable.settings
  memories _ := []

/-- A setter of one of the effects changes what its channels share, and no memory of theirs. -/
def Tuning.ChangesShared : Tuning → Prop
  | .echoCanceller setter => setter.ChangesShared
  | .mobileEchoControl setter => setter.ChangesShared
  | .gainControl setter => setter.ChangesShared
  | .noiseSuppressor setter => setter.ChangesShared
  | .voiceDetector setter => setter.ChangesShared

/-- Every setting does so: no setting is there for one channel. -/
theorem Setting.changesShared (setting : Setting) : setting.tuning.ChangesShared := by
  cases setting <;> exact ⟨⟨fun _ => rfl, fun _ => rfl⟩, fun _ => rfl⟩

end Instances

section Prepare

variable {lane : Nat} (inside : lane < 2) {format : Format} (single : format.outputChannels = 1)
include inside single

/-- Preparing an echo canceller. The history of the far end has the sizes of its own stream, which
are the same in both formats, and every channel starts at rest. -/
theorem EchoCanceller.alongLane_prepare {wide narrow : EchoCanceller}
    (known : AlongLane lane wide narrow) :
    AlongLane lane (wide.prepare (format.widened 2)) (narrow.prepare format) := by
  have enabled : wide.enabled = narrow.enabled :=
    (congrArg EchoCanceller.enabled known.shared :)
  let farEnd := FarEnd.silent format filterMs
  by_cases on : narrow.enabled = true
  · rw [prepare, prepare, if_pos (enabled.trans on), if_pos on]
    have shared := congrArg (fun effect : EchoCanceller =>
      { effect with farEnd, driftIsSet := false }) known.shared
    exact .fresh inside shared (Channel.silent farEnd.taps format.bandLength) rfl
      (congrArg (List.replicate · (Channel.silent farEnd.taps format.bandLength)) single)
  · rw [prepare, prepare, if_neg (enabled ▸ on), if_neg on]
    exact known

/-- Preparing mobile echo control, which is refused at the same rates whatever the number of
channels. -/
theorem MobileEchoControl.alongLane_prepare {wide narrow : MobileEchoControl}
    (known : AlongLane lane wide narrow) :
    SameOutcome (AlongLane lane) (wide.prepare (format.widened 2)) (narrow.prepare format) := by
  have enabled : wide.enabled = narrow.enabled :=
    (congrArg MobileEchoControl.enabled known.shared :)
  cases on : narrow.enabled with
  | false =>
    rw [prepare_of_off on, prepare_of_off (enabled.trans on)]
    exact known
  | true =>
    simp only [prepare, enabled, on, Bool.not_true, Bool.false_eq_true, if_false]
    have rate : (format.widened 2).rate = format.rate := rfl
    rw [rate]
    cases format.rate.isSplit with
    | true => rfl
    | false =>
      have shared := congrArg (fun effect : MobileEchoControl =>
        { effect with enabled := true, farEnd := FarEnd.silent format 0, seed := firstSeed })
        known.shared
      exact .fresh inside shared ({} : Channel) rfl
        (congrArg (List.replicate · ({} : Channel)) single)

/-- Preparing a high-pass filter. -/
theorem HighPass.alongLane_prepare {wide narrow : HighPass}
    (known : AlongLane lane wide narrow) :
    AlongLane lane (wide.prepare (format.widened 2)) (narrow.prepare format) := by
  have enabled : wide.enabled = narrow.enabled := (congrArg HighPass.enabled known.shared :)
  let resting : Filter := { coefficients := coefficientsFor format.rate.bandHz }
  by_cases on : narrow.enabled = true
  · rw [prepare, prepare, if_pos (enabled.trans on), if_pos on]
    exact .fresh inside known.shared resting rfl (congrArg (List.replicate · resting) single)
  · rw [prepare, prepare, if_neg (enabled ▸ on), if_neg on]
    exact known

/-- Preparing a noise suppressor. -/
theorem NoiseSuppressor.alongLane_prepare {wide narrow : NoiseSuppressor}
    (known : AlongLane lane wide narrow) :
    AlongLane lane (wide.prepare (format.widened 2)) (narrow.prepare format) := by
  have enabled : wide.enabled = narrow.enabled :=
    (congrArg NoiseSuppressor.enabled known.shared :)
  by_cases on : narrow.enabled = true
  · rw [prepare, prepare, if_pos (enabled.trans on), if_pos on]
    exact .fresh inside known.shared ({} : Channel) rfl
      (congrArg (List.replicate · ({} : Channel)) single)
  · rw [prepare, prepare, if_neg (enabled ▸ on), if_neg on]
    exact known

end Prepare

section Whole

variable {lane : Nat}

/-- Preparing a gain control. -/
theorem GainControl.alongLane_prepare {wide narrow : GainControl}
    (known : AlongLane lane wide narrow) : AlongLane lane wide.prepare narrow.prepare :=
  known.of_same (settings_prepare wide) (settings_prepare narrow) rfl rfl

/-- Preparing a level meter. -/
theorem LevelMeter.alongLane_prepare {wide narrow : LevelMeter}
    (known : AlongLane lane wide narrow) : AlongLane lane wide.prepare narrow.prepare := by
  refine known.change prepare ?_ fun _ => rfl
  rintro ⟨enabled, captured, rendered⟩
  cases enabled <;> rfl

/-- Preparing a voice detector. -/
theorem VoiceDetector.alongLane_prepare {wide narrow : VoiceDetector}
    (known : AlongLane lane wide narrow) : AlongLane lane wide.prepare narrow.prepare :=
  known.of_same (settings_prepare wide) (settings_prepare narrow) rfl rfl

/-- An echo canceller takes in a frame to the loudspeaker. Its channels share its history and its
switch, so the frame meets the same history in both states and is taken in or refused by both. -/
theorem EchoCanceller.alongLane_render {wide narrow : EchoCanceller}
    (known : AlongLane lane wide narrow) (audio : StreamBuffer) :
    SameOutcome (AlongLane lane) (wide.render audio) (narrow.render audio) := by
  have enabled : wide.enabled = narrow.enabled :=
    (congrArg EchoCanceller.enabled known.shared :)
  have farEnd : wide.farEnd = narrow.farEnd := (congrArg EchoCanceller.farEnd known.shared :)
  have attempt : wide.farEnd.intake wide.enabled audio =
      narrow.farEnd.intake narrow.enabled audio := by rw [enabled, farEnd]
  rw [render_eq, render_eq, attempt]
  exact known.attempt _ (fun effect farEnd => { effect with farEnd }) (fun _ _ => rfl)
    fun _ _ => rfl

/-- Mobile echo control takes in a frame to the loudspeaker, by the same rule. -/
theorem MobileEchoControl.alongLane_render {wide narrow : MobileEchoControl}
    (known : AlongLane lane wide narrow) (audio : StreamBuffer) :
    SameOutcome (AlongLane lane) (wide.render audio) (narrow.render audio) := by
  have enabled : wide.enabled = narrow.enabled :=
    (congrArg MobileEchoControl.enabled known.shared :)
  have farEnd : wide.farEnd = narrow.farEnd := (congrArg MobileEchoControl.farEnd known.shared :)
  have attempt : wide.farEnd.intake wide.enabled audio =
      narrow.farEnd.intake narrow.enabled audio := by rw [enabled, farEnd]
  rw [render_eq, render_eq, attempt]
  exact known.attempt _ (fun effect farEnd => { effect with farEnd }) (fun _ _ => rfl)
    fun _ _ => rfl

/-- A frame to the loudspeaker changes no setting of a gain control. -/
theorem GainControl.settings_render (effect : GainControl) (audio : StreamBuffer) :
    Configurable.settings (effect.render audio) = Configurable.settings effect := by
  unfold render
  split <;> rfl

/-- A level meter takes in a frame to the loudspeaker. -/
theorem LevelMeter.alongLane_render {wide narrow : LevelMeter}
    (known : AlongLane lane wide narrow) (audio : StreamBuffer) :
    AlongLane lane (wide.render audio) (narrow.render audio) := by
  refine known.change (·.render audio) ?_ fun _ => rfl
  rintro ⟨enabled, captured, rendered⟩
  cases enabled <;> rfl

/-- Reading the level of the stream to the loudspeaker. -/
theorem LevelMeter.alongLane_takeRendered {wide narrow : LevelMeter}
    (known : AlongLane lane wide narrow) :
    wide.takeRendered.1 = narrow.takeRendered.1 ∧
      AlongLane lane wide.takeRendered.2 narrow.takeRendered.2 := by
  have enabled : wide.enabled = narrow.enabled := (congrArg LevelMeter.enabled known.shared :)
  have rendered : wide.rendered = narrow.rendered := (congrArg LevelMeter.rendered known.shared :)
  constructor
  · simp only [takeRendered, enabled, rendered]
    split <;> rfl
  · refine known.change (·.takeRendered.2) ?_ fun _ => rfl
    rintro ⟨enabled, captured, rendered⟩
    cases enabled <;> rfl

end Whole

/-- A pass over two channels agrees on a lane with a pass over one: it is refused for the same
reason or for none, and its effect and its audio follow the lane. -/
structure LanePass {Effect : Type} [PerChannel Effect] (lane : Nat) (wide narrow : Pass Effect) :
    Prop where
  fault : wide.fault = narrow.fault
  effect : AlongLane lane wide.effect narrow.effect
  audio : wide.audio.Lane lane narrow.audio

/-- The pass of an echo canceller that is on. -/
theorem EchoCanceller.capture_of_on {effect : EchoCanceller} (on : effect.enabled = true)
    (delay : StreamDelay) (audio : StreamBuffer) :
    effect.capture delay audio =
      if effect.lacksParameter delay then .refused .parameterNotSet effect audio
      else if effect.farEnd.Fits audio.bandLength ∧ audio.channelCount ≤ effect.channels.length then
        let walked := audio.used.foldl
          (cancelChannel (align effect.farEnd audio.bandLength delay.ms))
          ({ effect with driftIsSet := false, hasEcho := false }, audio)
        .done walked.1 walked.2
      else .refused .unspecified { effect with driftIsSet := false } audio := by
  simp [capture, on]

/-- The pass of mobile echo control that is on. -/
theorem MobileEchoControl.capture_of_on {effect : MobileEchoControl} (on : effect.enabled = true)
    (delay : StreamDelay) (audio : StreamBuffer) :
    effect.capture delay audio =
      if !delay.isSet then .refused .parameterNotSet effect audio
      else if effect.farEnd.Fits audio.bandLength ∧ audio.channelCount ≤ effect.channels.length then
        let far := power (effect.farEnd.reference audio.bandLength (effect.farEnd.delayOf delay.ms))
        let walked := audio.used.foldl (controlChannel far) (effect, audio)
        .done walked.1 walked.2
      else .refused .unspecified effect audio := by
  simp [capture, on]

/-- Without comfort noise the amplitude of the noise is zero. -/
theorem MobileEchoControl.Channel.comfortAmplitude_of_silent {comfortNoise : Bool}
    (silent : comfortNoise = false) (channel : Channel) :
    channel.comfortAmplitude comfortNoise = 0.0 := by
  simp only [comfortAmplitude, silent]
  split <;> simp

/-- Without an amplitude a block is attenuated and the noise generator is left alone. -/
theorem MobileEchoControl.fill_zero (gain : Scalar) (seed : UInt32) (samples : List Sample) :
    fill gain 0.0 seed samples =
      (samples.map fun sample => Sample.ofScalar (Sample.toScalar sample * gain + 0.0), seed) := by
  have none : ¬ (0.0 : Scalar) < 0.0 := by decide
  induction samples with
  | nil => rfl
  | cons sample rest inductionHypothesis =>
    simp only [fill, if_neg none, inductionHypothesis, List.map_cons]

/-- A gain is applied to the channel alone, and the limiter looks at nothing else. -/
theorem GainControl.amplifyChannel_lane {wide narrow : GainControl}
    (limits : wide.limits = narrow.limits) {lane : Nat} {first second : StreamBuffer}
    (audio : first.Lane lane second) (ratio : Scalar) :
    (wide.amplifyChannel ratio first lane).Lane lane (narrow.amplifyChannel ratio second 0) := by
  have factor : wide.factor ratio first lane = narrow.factor ratio second 0 := by
    simp only [GainControl.factor, audio.lowBand, audio.highBand?, limits]
  rw [amplifyChannel, amplifyChannel, factor]
  exact audio.amplify _

/-- The pass of a gain control that is on and has a fixed gain. -/
theorem GainControl.capture_of_fixed {effect : GainControl} (on : effect.enabled = true)
    (fixed : effect.mode = .fixedDigital) {gain : Scalar}
    (chosen : Float32.ofInt effect.compression = gain) (audio : StreamBuffer) :
    effect.capture audio =
      .done { effect with gain } (audio.used.foldl
        (amplifyChannel { effect with gain } (Level.gainOfDecibels gain)) audio) := by
  simp [capture, on, fixed, chosen, lacksVolume, nextGain, desiredGain]

/-- Measuring a frame changes no setting of a gain control. -/
theorem GainControl.settings_measure (effect : GainControl) (audio : StreamBuffer) :
    Configurable.settings (effect.measure audio) = Configurable.settings effect := by
  unfold measure
  split <;> rfl

/-- Measuring a captured frame changes only what is left out of account. -/
theorem LevelMeter.shared_capture (meter : LevelMeter) (audio : StreamBuffer) :
    PerChannel.shared (meter.capture audio) = PerChannel.shared meter := by
  unfold capture
  split <;> rfl

/-- Applying a gain changes neither the switch nor the mode of a gain control. -/
theorem GainControl.mode_capture (effect : GainControl) (audio : StreamBuffer) :
    (effect.capture audio).effect.enabled = effect.enabled ∧
      (effect.capture audio).effect.mode = effect.mode := by
  simp only [capture]
  split
  · exact ⟨rfl, rfl⟩
  split
  · exact ⟨rfl, rfl⟩
  split <;> exact ⟨rfl, rfl⟩

/-- Controlling echo changes no setting of mobile echo control. -/
theorem MobileEchoControl.settings_capture (effect : MobileEchoControl) (delay : StreamDelay)
    (audio : StreamBuffer) :
    Configurable.settings (effect.capture delay audio).effect = Configurable.settings effect := by
  simp only [capture]
  split
  · rfl
  split
  · rfl
  split
  · refine List.foldlRecOn (motive := fun now : MobileEchoControl × StreamBuffer =>
      Configurable.settings now.1 = Configurable.settings effect) audio.used _ rfl ?_
    rintro ⟨now, audio⟩ known index -
    simp only [controlChannel]
    cases now.channels[index]? with
    | none => exact known
    | some channel => exact known
  · rfl

/-- Detecting voice changes no setting. -/
theorem VoiceDetector.settings_capture (detector : VoiceDetector) (audio : StreamBuffer) :
    Configurable.settings (detector.capture audio) = Configurable.settings detector := by
  simp only [capture, collect, decide, conclude]
  split
  · rfl
  split
  · rfl
  split
  · rfl
  split
  · rfl
  split <;> rfl

section Capture

variable {lane : Nat} {first second : StreamBuffer}

/-- A walk over the channels in use, when the work on the lane is the work on the one channel and
the work on the other channel does not touch the lane. The work may rely on a property of the effect
that it keeps. A walk over two channels is two pieces of work, and the lane decides which of them
counts. -/
theorem LanePass.walk {Effect : Type} [PerChannel Effect]
    {step alsoStep : Effect × StreamBuffer → Nat → Effect × StreamBuffer}
    {wide narrow : Effect} (known : AlongLane lane wide narrow) (Keeps : Effect → Prop)
    (kept : Keeps narrow) (inside : lane < 2) (audio : first.Lane lane second)
    (both : first.channelCount = 2) (single : second.channelCount = 1)
    (here : ∀ {wide narrow : Effect} {first second : StreamBuffer},
      AlongLane lane wide narrow → Keeps narrow → first.Lane lane second →
        AlongLane lane (step (wide, first) lane).1 (alsoStep (narrow, second) 0).1 ∧
          Keeps (alsoStep (narrow, second) 0).1 ∧
          (step (wide, first) lane).2.Lane lane (alsoStep (narrow, second) 0).2)
    (elsewhere : ∀ {wide narrow : Effect} {first second : StreamBuffer} (other : Nat),
      other ≠ lane → AlongLane lane wide narrow → Keeps narrow → first.Lane lane second →
        AlongLane lane (step (wide, first) other).1 narrow ∧
          (step (wide, first) other).2.Lane lane second) :
    LanePass lane
      (.done (first.used.foldl step (wide, first)).1 (first.used.foldl step (wide, first)).2)
      (.done (second.used.foldl alsoStep (narrow, second)).1
        (second.used.foldl alsoStep (narrow, second)).2) := by
  let Related : Effect × StreamBuffer → Effect × StreamBuffer → Prop := fun one other =>
    AlongLane lane one.1 other.1 ∧ Keeps other.1 ∧ one.2.Lane lane other.2
  have walked : Related (first.used.foldl step (wide, first))
      (second.used.foldl alsoStep (narrow, second)) := by
    simp only [StreamBuffer.used, both, single]
    refine foldl_lane Related inside ?_ ?_ ⟨known, kept, audio⟩
    · rintro ⟨wide, first⟩ ⟨narrow, second⟩ ⟨known, kept, audio⟩
      exact here known kept audio
    · rintro ⟨wide, first⟩ ⟨narrow, second⟩ other different ⟨known, kept, audio⟩
      obtain ⟨still, heard⟩ := elsewhere other different known kept audio
      exact ⟨still, kept, heard⟩
  exact ⟨rfl, walked.1, walked.2.2⟩

variable (inside : lane < 2) (audio : first.Lane lane second) (both : first.channelCount = 2)
  (single : second.channelCount = 1)
include inside audio both single

/-- Filtering. A channel is filtered with its own memory, in the full band or, where the stream is
split, in the low one. -/
theorem HighPass.capture_lane {wide narrow : HighPass} (known : AlongLane lane wide narrow) :
    LanePass lane (wide.capture first) (narrow.capture second) := by
  have enabled : wide.enabled = narrow.enabled := (congrArg HighPass.enabled known.shared :)
  have reaches : first.channelCount ≤ wide.filters.length ↔
      second.channelCount ≤ narrow.filters.length := known.reaches_iff both single
  cases on : narrow.enabled with
  | false =>
    rw [capture_of_off on, capture_of_off (enabled.trans on)]
    exact ⟨rfl, known, audio⟩
  | true =>
    simp only [capture, enabled, on, Bool.not_true, Bool.false_eq_true, if_false]
    by_cases missing : narrow.filters.length < second.channelCount
    · rw [if_pos missing, if_pos (by omega)]
      exact ⟨rfl, known, audio⟩
    rw [if_neg missing, if_neg (by omega)]
    refine .walk known (fun _ => True) trivial inside audio both single ?_ ?_
    · intro wide narrow first second known _ audio
      have memory : wide.filters[lane]? = narrow.filters[0]? := known.memory
      simp only [filterChannel, memory, audio.lowBand]
      cases narrow.filters[0]? with
      | none => exact ⟨known, trivial, audio⟩
      | some filter => exact ⟨known.store _ rfl rfl rfl rfl, trivial, audio.setLowBand _⟩
    · intro wide narrow first second other different known _ audio
      simp only [filterChannel]
      cases wide.filters[other]? with
      | none => exact ⟨known, audio⟩
      | some filter =>
        exact ⟨known.store_elsewhere different _ rfl rfl, audio.setLowBand_elsewhere different _⟩

/-- Suppressing noise. The gains that the low band of a channel calls for, one for each sub-block,
are applied to its own high band. -/
theorem NoiseSuppressor.capture_lane {wide narrow : NoiseSuppressor}
    (known : AlongLane lane wide narrow) :
    LanePass lane (wide.capture first) (narrow.capture second) := by
  have enabled : wide.enabled = narrow.enabled :=
    (congrArg NoiseSuppressor.enabled known.shared :)
  have reaches : first.channelCount ≤ wide.channels.length ↔
      second.channelCount ≤ narrow.channels.length := known.reaches_iff both single
  cases on : narrow.enabled with
  | false =>
    rw [capture_of_off on, capture_of_off (enabled.trans on)]
    exact ⟨rfl, known, audio⟩
  | true =>
    simp only [capture, enabled, on, audio.bandLength, Bool.not_true, Bool.false_eq_true, if_false]
    by_cases missing : narrow.channels.length < second.channelCount
    · rw [if_pos missing, if_pos (by omega)]
      exact ⟨rfl, known, audio⟩
    rw [if_neg missing, if_neg (by omega)]
    refine .walk known (fun _ => True) trivial inside audio both single ?_ ?_
    · intro wide narrow first second known _ audio
      have memory : wide.channels[lane]? = narrow.channels[0]? := known.memory
      have gainFloor : wide.strength.gainFloor = narrow.strength.gainFloor :=
        (congrArg (·.strength.gainFloor) known.shared :)
      simp only [suppressChannel, memory, audio.lowBand, gainFloor]
      cases narrow.channels[0]? with
      | none => exact ⟨known, trivial, audio⟩
      | some channel =>
        exact ⟨known.store _ rfl rfl rfl rfl, trivial, (audio.setLowBand _).mapHighBand _⟩
    · intro wide narrow first second other different known _ audio
      simp only [suppressChannel]
      cases wide.channels[other]? with
      | none => exact ⟨known, audio⟩
      | some channel =>
        exact ⟨known.store_elsewhere different _ rfl rfl,
          (audio.setLowBand_elsewhere different _).mapHighBand_elsewhere different _⟩

/-- Cancelling echo. The drift, the history of the far end and its alignment are shared, so the pass
is refused for both or for neither; the metrics are taken from the first channel and left out of
account. -/
theorem EchoCanceller.capture_lane {wide narrow : EchoCanceller}
    (known : AlongLane lane wide narrow) (delay : StreamDelay) :
    LanePass lane (wide.capture delay first) (narrow.capture delay second) := by
  have enabled : wide.enabled = narrow.enabled :=
    (congrArg EchoCanceller.enabled known.shared :)
  have lacks : wide.lacksParameter delay = narrow.lacksParameter delay :=
    (congrArg (·.lacksParameter delay) known.shared :)
  have farEnd : wide.farEnd = narrow.farEnd := (congrArg EchoCanceller.farEnd known.shared :)
  have aligned : align wide.farEnd first.bandLength delay.ms =
      align narrow.farEnd second.bandLength delay.ms := by
    rw [farEnd, audio.bandLength]
  have ready : (wide.farEnd.Fits first.bandLength ∧ first.channelCount ≤ wide.channels.length) ↔
      narrow.farEnd.Fits second.bandLength ∧ second.channelCount ≤ narrow.channels.length :=
    and_congr (by rw [farEnd, audio.bandLength]) (known.reaches_iff both single)
  cases on : narrow.enabled with
  | false =>
    rw [capture_of_off on, capture_of_off (enabled.trans on)]
    exact ⟨rfl, known, audio⟩
  | true =>
    rw [capture_of_on on, capture_of_on (enabled.trans on), lacks]
    by_cases missing : narrow.lacksParameter delay = true
    · rw [if_pos missing, if_pos missing]
      exact ⟨rfl, known, audio⟩
    rw [if_neg missing, if_neg missing]
    by_cases fits : narrow.farEnd.Fits second.bandLength ∧
        second.channelCount ≤ narrow.channels.length
    · rw [if_pos fits, if_pos (ready.mpr fits), aligned]
      have begun := known.change
        (fun effect => { effect with driftIsSet := false, hasEcho := false }) (fun _ => rfl)
        fun _ => rfl
      refine .walk begun (fun _ => True) trivial inside audio both single ?_ ?_
      · intro wide narrow first second known _ audio
        have memory : wide.channels[lane]? = narrow.channels[0]? := known.memory
        have overdrive : wide.suppression.overdrive = narrow.suppression.overdrive :=
          (congrArg (·.suppression.overdrive) known.shared :)
        simp only [cancelChannel, memory, audio.lowBand, overdrive]
        cases narrow.channels[0]? with
        | none => exact ⟨known, trivial, audio⟩
        | some channel =>
          exact ⟨known.store _ rfl rfl rfl rfl, trivial, (audio.setLowBand _).mapHighBand _⟩
      · intro wide narrow first second other different known _ audio
        simp only [cancelChannel]
        cases wide.channels[other]? with
        | none => exact ⟨known, audio⟩
        | some channel =>
          exact ⟨known.store_elsewhere different _ rfl rfl,
            (audio.setLowBand_elsewhere different _).mapHighBand_elsewhere different _⟩
    · rw [if_neg fits, if_neg (mt ready.mp fits)]
      exact ⟨rfl, known.change (fun effect => { effect with driftIsSet := false }) (fun _ => rfl)
        fun _ => rfl, audio⟩

/-- Controlling echo without comfort noise. With it the channels would draw from one generator, and
the first would change what the second draws. -/
theorem MobileEchoControl.capture_lane {wide narrow : MobileEchoControl}
    (known : AlongLane lane wide narrow) (delay : StreamDelay)
    (quiet : narrow.enabled = true → narrow.comfortNoise = false) :
    LanePass lane (wide.capture delay first) (narrow.capture delay second) := by
  have enabled : wide.enabled = narrow.enabled :=
    (congrArg MobileEchoControl.enabled known.shared :)
  have farEnd : wide.farEnd = narrow.farEnd := (congrArg MobileEchoControl.farEnd known.shared :)
  have ready : (wide.farEnd.Fits first.bandLength ∧ first.channelCount ≤ wide.channels.length) ↔
      narrow.farEnd.Fits second.bandLength ∧ second.channelCount ≤ narrow.channels.length :=
    and_congr (by rw [farEnd, audio.bandLength]) (known.reaches_iff both single)
  cases on : narrow.enabled with
  | false =>
    rw [capture_of_off on, capture_of_off (enabled.trans on)]
    exact ⟨rfl, known, audio⟩
  | true =>
    rw [capture_of_on on, capture_of_on (enabled.trans on)]
    by_cases missing : (!delay.isSet) = true
    · rw [if_pos missing, if_pos missing]
      exact ⟨rfl, known, audio⟩
    rw [if_neg missing, if_neg missing]
    by_cases fits : narrow.farEnd.Fits second.bandLength ∧
        second.channelCount ≤ narrow.channels.length
    · rw [if_pos fits, if_pos (ready.mpr fits), farEnd, audio.bandLength]
      refine .walk known (fun effect => effect.comfortNoise = false) (quiet on) inside audio both
        single ?_ ?_
      · intro wide narrow first second known silent audio
        have memory : wide.channels[lane]? = narrow.channels[0]? := known.memory
        have overdrive : wide.routing.overdrive = narrow.routing.overdrive :=
          (congrArg (·.routing.overdrive) known.shared :)
        have alsoSilent : wide.comfortNoise = false :=
          (congrArg MobileEchoControl.comfortNoise known.shared :).trans silent
        simp only [controlChannel, memory, audio.lowBand, audio.snapshot?, overdrive,
          Channel.comfortAmplitude_of_silent silent, Channel.comfortAmplitude_of_silent alsoSilent,
          fill_zero]
        cases narrow.channels[0]? with
        | none => exact ⟨known, silent, audio⟩
        | some channel => exact ⟨known.store _ rfl rfl rfl rfl, silent, audio.setLowBand _⟩
      · intro wide narrow first second other different known silent audio
        have alsoSilent : wide.comfortNoise = false :=
          (congrArg MobileEchoControl.comfortNoise known.shared :).trans silent
        simp only [controlChannel, Channel.comfortAmplitude_of_silent alsoSilent, fill_zero]
        cases wide.channels[other]? with
        | none => exact ⟨known, audio⟩
        | some channel =>
          exact ⟨known.store_elsewhere different _ rfl rfl, audio.setLowBand_elsewhere different _⟩
    · rw [if_neg fits, if_neg (mt ready.mp fits)]
      exact ⟨rfl, known, audio⟩

/-- Applying a fixed gain. In the other modes the gain follows the mean power of all channels, so
that one lane would hear the other. -/
theorem GainControl.capture_lane {wide narrow : GainControl} (known : AlongLane lane wide narrow)
    (fixed : narrow.enabled = true → narrow.mode = .fixedDigital) :
    LanePass lane (wide.capture first) (narrow.capture second) := by
  have enabled : wide.enabled = narrow.enabled := (congrArg GainControl.enabled known.shared :)
  have mode : wide.mode = narrow.mode := (congrArg GainControl.mode known.shared :)
  have compression : wide.compression = narrow.compression :=
    (congrArg GainControl.compression known.shared :)
  have limits : wide.limits = narrow.limits := (congrArg GainControl.limits known.shared :)
  cases on : narrow.enabled with
  | false =>
    rw [capture_of_off on, capture_of_off (enabled.trans on)]
    exact ⟨rfl, known, audio⟩
  | true =>
    have fixedMode := fixed on
    rw [capture_of_fixed on fixedMode rfl,
      capture_of_fixed (enabled.trans on) (mode.trans fixedMode)
        (congrArg Float32.ofInt compression)]
    -- Comparing the passes as a whole would compare the walks, so the fault is read off first.
    refine ⟨by rw [Pass.fault_done, Pass.fault_done], known.of_same rfl rfl rfl rfl, ?_⟩
    simp only [StreamBuffer.used, both, single, Pass.done]
    refine foldl_lane (StreamBuffer.Lane lane) inside ?_ ?_ audio
    · intro first second audio
      exact amplifyChannel_lane limits audio _
    · intro first second other different audio
      exact audio.amplify_elsewhere different _

end Capture

end VoiceEngine
