import VoiceEngine.Proofs.FarEndHistory
import VoiceEngine.Proofs.TapWindows

/-!
# What a captured frame is compared with

A capture looks for the far-end frame that the reported delay points at: the canceller with all that
its taps reach back to, mobile echo control with the frame alone. Where these values lie in a
history depends on its length, on that of the frame and on the delay. In what was heard their place
depends on the delay alone: they end so many values before the newest one. The histories are long
enough for that at every delay that can be reported.
-/

namespace VoiceEngine

/-- The last values of a line of those that end some values before its newest one. -/
def ending {α : Type} (values : List α) (behind count : Nat) : List α :=
  (values.rdrop behind).rtake count

/-- Where the line is long enough, such values are a window of it. -/
theorem ending_eq {α : Type} {values : List α} {behind count : Nat}
    (enough : behind + count ≤ values.length) :
    ending values behind count =
      (values.drop (values.length - behind - count)).take count := by
  have shorter : (values.take (values.length - behind)).length = values.length - behind :=
    List.length_take_of_le (Nat.sub_le values.length behind)
  have left : values.length - behind - (values.length - behind - count) = count := by omega
  rw [ending, List.rdrop, List.rtake, shorter, List.drop_take, left]

/-- Such values are as many as were asked for. -/
theorem length_ending {α : Type} {values : List α} {behind count : Nat}
    (enough : behind + count ≤ values.length) : (ending values behind count).length = count := by
  rw [ending_eq enough, List.length_take, List.length_drop]
  omega

/-- Values that end where others begin, and the first of these others behind them. -/
theorem ending_append_take {α : Type} {values : List α} {behind count before some : Nat}
    (enough : behind + count + before ≤ values.length) (few : some ≤ count) :
    ending values (behind + count) before ++ (ending values behind count).take some =
      ending values (behind + (count - some)) (before + some) := by
  have next : values.length - behind - count =
      values.length - (behind + count) - before + before := by omega
  have first : values.length - (behind + (count - some)) - (before + some) =
      values.length - (behind + count) - before := by omega
  rw [ending_eq enough, ending_eq (by omega), ending_eq (by omega), List.take_take,
    Nat.min_eq_left few, next, first, ← List.drop_drop, List.take_add]

/-- The newest of some values end where all of them end. -/
theorem take_reverse_ending {α : Type} (values : List α) (behind : Nat) {count newest : Nat}
    (fewer : newest ≤ count) :
    (ending values behind count).reverse.take newest = (ending values behind newest).reverse := by
  rw [ending, ending, List.rtake_eq_reverse_take_reverse, List.rtake_eq_reverse_take_reverse,
    List.reverse_reverse, List.reverse_reverse, List.take_take, Nat.min_eq_left fewer]

/-- Values with others behind them end where these begin. -/
theorem ending_append {α : Type} (before values after : List α) :
    ending (before ++ values ++ after) after.length values.length = values := by
  rw [ending, List.rdrop_append_length, List.rtake_eq_reverse_take_reverse, List.reverse_append,
    ← List.length_reverse, List.take_left, List.reverse_reverse]

/-- What the taps meet at an instant of a frame that is cut out of a line, when the older values are
those that lie before it in the line: the value of the instant and the line before it. -/
theorem EchoCanceller.window_ending {line : List Scalar} {behind count taps instant : Nat}
    (tapped : 1 ≤ taps) (enough : behind + count + (taps - 1) ≤ line.length)
    (inside : instant < count) :
    EchoCanceller.window taps (ending line (behind + count) (taps - 1)).reverse
        (ending line behind count) instant =
      (ending line (behind + (count - 1 - instant)) taps).reverse := by
  have age : count - (instant + 1) = count - 1 - instant := by omega
  rw [window, ← List.reverse_append, ending_append_take enough inside, age]
  exact take_reverse_ending line _ (by omega)

namespace FarEnd

variable {farEnd : FarEnd} {filterMs : Nat} {heard : List Scalar}

/-- The reference of a frame is cut out of what was heard: as many values as the frame has, and they
end as many values before the newest one as the delay says. -/
theorem Remembers.reference (known : farEnd.Remembers filterMs heard) {frameLength delay : Nat}
    (fits : farEnd.Fits frameLength) (short : delay ≤ farEnd.maxDelay) :
    farEnd.reference frameLength delay = ending (farEnd.line heard) delay frameLength := by
  have total : farEnd.history.length = farEnd.maxDelay + farEnd.taps + frameLength := fits
  have length : (farEnd.line heard).length = farEnd.history.length + heard.length := by
    simp [line]
  have place : heard.length + farEnd.start frameLength delay =
      (farEnd.line heard).length - delay - frameLength := by
    simp only [start]
    omega
  have history := known.history
  rw [rtake_line] at history
  rw [ending_eq (by omega), ← place, ← List.drop_drop, ← history, FarEnd.reference]

/-- The context of a frame is what was heard right before its reference, as far as the taps reach,
newest first. -/
theorem Remembers.context (known : farEnd.Remembers filterMs heard) {frameLength delay : Nat}
    (fits : farEnd.Fits frameLength) (short : delay ≤ farEnd.maxDelay) (tapped : 1 ≤ farEnd.taps) :
    farEnd.context frameLength delay =
      (ending (farEnd.line heard) (delay + frameLength) (farEnd.taps - 1)).reverse := by
  have total : farEnd.history.length = farEnd.maxDelay + farEnd.taps + frameLength := fits
  have length : (farEnd.line heard).length = farEnd.history.length + heard.length := by
    simp [line]
  have place : heard.length + (farEnd.start frameLength delay + 1 - farEnd.taps) =
      (farEnd.line heard).length - (delay + frameLength) - (farEnd.taps - 1) := by
    simp only [start]
    omega
  have history := known.history
  rw [rtake_line] at history
  rw [ending_eq (by omega), ← place, ← List.drop_drop, ← history, FarEnd.context]

/-- A delay within the limit is not cut short. -/
theorem Remembers.delayOf (known : farEnd.Remembers filterMs heard) {ms : Int}
    (below : ms ≤ StreamDelay.limit) :
    farEnd.delayOf ms = ms.toNat * farEnd.samplesPerMs ∧ farEnd.delayOf ms ≤ farEnd.maxDelay := by
  have few : ms.toNat ≤ maxDelayMs := by
    simp only [StreamDelay.limit, maxDelayMs] at *
    omega
  have inside : ms.toNat * farEnd.samplesPerMs ≤ farEnd.maxDelay := by
    rw [known.maxDelay]
    exact Nat.mul_le_mul_right farEnd.samplesPerMs few
  exact ⟨Nat.min_eq_left inside, Nat.min_le_right _ _⟩

end FarEnd

/-- The power of values, of which there are some, is the mean of their squares. -/
theorem EchoCanceller.power_eq {values : List Scalar} (some : values.isEmpty = false) :
    EchoCanceller.power values =
      (values.foldl (fun sum value => sum + (value * value).toFloat) 0.0 /
        Float.ofNat values.length).toFloat32 := by
  simp [power, some]

/-- So it is for mobile echo control, which adds the squares up as they are. -/
theorem MobileEchoControl.power_eq {values : List Scalar} (some : values.isEmpty = false) :
    MobileEchoControl.power values =
      (values.map fun value => value * value).foldl (· + ·) 0 / Float32.ofNat values.length := by
  rw [power, some]
  rfl

/-- The other stages do not touch mobile echo control. -/
theorem CaptureStage.mobileEchoControl_run_of_ne {stage : CaptureStage}
    (different : stage ≠ .mobileEchoControl) (delay : StreamDelay) (rack : Rack)
    (audio : StreamBuffer) :
    (stage.run delay rack audio).effect.mobileEchoControl = rack.mobileEchoControl := by
  cases stage with
  | mobileEchoControl => exact absurd rfl different
  | snapshot =>
    simp only [run]
    split <;> rfl
  | _ => rfl

namespace Engine

variable {engine : Engine} {frame : Frame}

/-- A captured frame reaches a stage: it matches the format and is recorded, and the stages before
leave the rack and the audio like this. -/
structure Reaches (engine : Engine) (frame : Frame) (stage : CaptureStage) (rack : Rack)
    (audio : StreamBuffer) : Prop where
  matching : engine.frameFault engine.format.inputChannels frame = none
  recorded : (recording (Trace.Recorder.recordFrame .captured frame) engine).result = .ok ()
  passed : CaptureStage.runEach engine.delay (CaptureStage.order.takeWhile (· ≠ stage))
    engine.rack (engine.loadCaptured frame) = (none, rack, audio)

/-- The stages see a frame in the sizes of the format. -/
theorem Reaches.size {stage : CaptureStage} {rack : Rack} {audio : StreamBuffer}
    (reaches : engine.Reaches frame stage rack audio) (stored : engine.Stored) :
    audio.channelCount = engine.format.outputChannels ∧
      audio.bandLength = engine.format.bandLength := by
  have alike := (CaptureStage.runEach_alike engine.delay engine.rack (engine.loadCaptured frame)
    (CaptureStage.order.takeWhile (· ≠ stage))).2
  rw [reaches.passed] at alike
  obtain ⟨count, bandLength⟩ := loadCaptured_size engine stored.supported reaches.matching
  refine ⟨alike.channelCount.trans count, ?_⟩
  rw [alike.bandLength, bandLength, stored.capturing.bandLength]

/-- The stages before a stage leave what no other stage touches. -/
theorem Reaches.keeps {View : Type} (view : Rack → View) {stage : CaptureStage} {rack : Rack}
    {audio : StreamBuffer} (reaches : engine.Reaches frame stage rack audio)
    (kept : ∀ {earlier : CaptureStage}, earlier ≠ stage → ∀ rack audio,
      view (earlier.run engine.delay rack audio).effect = view rack) :
    view rack = view engine.rack := by
  have earlier : ∀ earlier ∈ CaptureStage.order.takeWhile (· ≠ stage), earlier ≠ stage := by
    intro earlier member
    have passed := List.mem_takeWhile_imp member
    exact of_decide_eq_true passed
  have same := CaptureStage.runEach_keeps view engine.delay
    (fun stage member => kept (earlier stage member)) engine.rack (engine.loadCaptured frame)
  rwa [reaches.passed] at same

/-- The stages before the echo canceller leave it as it is. -/
theorem Reaches.echoCanceller {rack : Rack} {audio : StreamBuffer}
    (reaches : engine.Reaches frame .echoCanceller rack audio) :
    rack.echoCanceller = engine.rack.echoCanceller :=
  reaches.keeps Rack.echoCanceller fun other =>
    CaptureStage.echoCanceller_run_of_ne other engine.delay

/-- The stages before mobile echo control leave it as it is. -/
theorem Reaches.mobileEchoControl {rack : Rack} {audio : StreamBuffer}
    (reaches : engine.Reaches frame .mobileEchoControl rack audio) :
    rack.mobileEchoControl = engine.rack.mobileEchoControl :=
  reaches.keeps Rack.mobileEchoControl fun other =>
    CaptureStage.mobileEchoControl_run_of_ne other engine.delay

/-- The values that the reported delay amounts to. -/
def delayValues (engine : Engine) : Nat :=
  engine.delay.ms.toNat * engine.format.rate.bandSamplesPerMs

/-- The far-end frame that was played before the newest one by the reported delay: a frame of values
that ends so many values before the newest, after silence as long as the history. -/
def farReference (engine : Engine) (echo : EchoEffect) (heard : List Scalar) : List Scalar :=
  ending ((echo.farEnd engine.rack).line heard) engine.delayValues engine.format.bandLength

/-- The values right before that frame, as far as the filter of an effect reaches, newest first. -/
def farContext (engine : Engine) (echo : EchoEffect) (heard : List Scalar) : List Scalar :=
  (ending ((echo.farEnd engine.rack).line heard) (engine.delayValues + engine.format.bandLength)
    (echo.filterMs * engine.format.rate.bandSamplesPerMs - 1)).reverse

/-- The number of taps of the echo canceller at the rate of the format. -/
def tapCount (engine : Engine) : Nat :=
  EchoEffect.canceller.filterMs * engine.format.rate.bandSamplesPerMs

/-- The values that the taps of the echo canceller are to meet at an instant of a captured frame,
newest first: one for every tap, the newest the value of that instant in the reference. -/
def tapValues (engine : Engine) (heard : List Scalar) (instant : Nat) : List Scalar :=
  (ending ((EchoEffect.canceller.farEnd engine.rack).line heard)
    (engine.delayValues + (engine.format.bandLength - 1 - instant)) engine.tapCount).reverse

/-- The echo canceller cancels with the reference and the context that were heard, both of full
length. The power of the reference is the mean of its squares, and when a channel filters a frame,
every tap meets at every instant the value of its age. -/
structure CancelsWith (engine : Engine) (heard : List Scalar) (rack : Rack)
    (audio : StreamBuffer) : Prop where
  reference : (engine.farReference .canceller heard).length = engine.format.bandLength
  context : (engine.farContext .canceller heard).length = engine.tapCount - 1
  pass :
    let reference := engine.farReference .canceller heard
    let squares := reference.foldl (fun sum value => sum + (value * value).toFloat) 0.0
    let walked := audio.used.foldl
      (EchoCanceller.cancelChannel
        { past := engine.farContext .canceller heard
          reference
          power := (squares / Float.ofNat reference.length).toFloat32 })
      ({ rack.echoCanceller with driftIsSet := false, hasEcho := false }, audio)
    rack.echoCanceller.capture engine.delay audio = .done walked.1 walked.2
  taps : ∀ instant < engine.format.bandLength,
    (engine.tapValues heard instant).length = engine.tapCount
  filtered : ∀ channel ∈ rack.echoCanceller.channels, ∀ near : List Sample,
    let met := (List.range engine.format.bandLength).map (engine.tapValues heard)
    let filtered := EchoCanceller.filterWindows (10000.0 * Float32.ofNat engine.tapCount)
      channel.weights (near.zip met)
    channel.run (engine.farContext .canceller heard) near (engine.farReference .canceller heard) =
      { channel with
        weights := filtered.1
        left := filtered.2.map (·.left)
        echo := filtered.2.map (·.echo) }

/-- Mobile echo control compares with the power of the reference that was heard, the mean of its
squares. -/
structure ControlsWith (engine : Engine) (heard : List Scalar) (rack : Rack)
    (audio : StreamBuffer) : Prop where
  reference : (engine.farReference .mobile heard).length = engine.format.bandLength
  pass :
    let reference := engine.farReference .mobile heard
    let squares := (reference.map fun value => value * value).foldl (· + ·) 0
    let walked := audio.used.foldl
      (MobileEchoControl.controlChannel (squares / Float32.ofNat reference.length))
      (rack.mobileEchoControl, audio)
    rack.mobileEchoControl.capture engine.delay audio = .done walked.1 walked.2

/-- A reference that is as long as a frame is not empty. -/
theorem reference_isEmpty {reference : List Scalar}
    (length : reference.length = engine.format.bandLength) : reference.isEmpty = false := by
  cases reference with
  | nil =>
    simp only [Format.bandLength] at length
    cases rate : engine.format.rate <;> rw [rate] at length <;> cases length
  | cons value values => rfl

/-- In a history that was made for bands of the rate at hand the reported delay is not cut short,
and the line reaches back from it for a frame and for all the taps. -/
theorem line_reaches {echo : EchoEffect} {heard : List Scalar}
    (known : (echo.farEnd engine.rack).Remembers echo.filterMs heard)
    (fits : (echo.farEnd engine.rack).Fits engine.format.bandLength)
    (rate : (echo.farEnd engine.rack).samplesPerMs = engine.format.rate.bandSamplesPerMs)
    (below : engine.delay.ms ≤ StreamDelay.limit) :
    (echo.farEnd engine.rack).delayOf engine.delay.ms = engine.delayValues ∧
      engine.delayValues ≤ (echo.farEnd engine.rack).maxDelay ∧
      (echo.farEnd engine.rack).taps = echo.filterMs * engine.format.rate.bandSamplesPerMs ∧
      engine.delayValues + engine.format.bandLength + (echo.farEnd engine.rack).taps ≤
        ((echo.farEnd engine.rack).line heard).length := by
  obtain ⟨delay, short⟩ := known.delayOf below
  have total : (echo.farEnd engine.rack).history.length = (echo.farEnd engine.rack).maxDelay +
      (echo.farEnd engine.rack).taps + engine.format.bandLength := fits
  have length : ((echo.farEnd engine.rack).line heard).length =
      (echo.farEnd engine.rack).history.length + heard.length := by
    simp [FarEnd.line]
  rw [rate] at delay
  have same : (echo.farEnd engine.rack).delayOf engine.delay.ms = engine.delayValues := delay
  rw [same] at short
  exact ⟨same, short, rate ▸ known.taps, by omega⟩

/-- From such a history the reference is cut out of what was heard. -/
theorem reference_eq {echo : EchoEffect} {heard : List Scalar}
    (known : (echo.farEnd engine.rack).Remembers echo.filterMs heard)
    (fits : (echo.farEnd engine.rack).Fits engine.format.bandLength)
    (rate : (echo.farEnd engine.rack).samplesPerMs = engine.format.rate.bandSamplesPerMs)
    (below : engine.delay.ms ≤ StreamDelay.limit) :
    (echo.farEnd engine.rack).reference engine.format.bandLength
        ((echo.farEnd engine.rack).delayOf engine.delay.ms) = engine.farReference echo heard ∧
      (engine.farReference echo heard).length = engine.format.bandLength := by
  obtain ⟨delay, short, -, enough⟩ := line_reaches known fits rate below
  rw [delay]
  exact ⟨known.reference fits short, length_ending (by omega)⟩

/-- So is the context, when there are taps that reach back to it. -/
theorem context_eq {echo : EchoEffect} {heard : List Scalar}
    (known : (echo.farEnd engine.rack).Remembers echo.filterMs heard)
    (fits : (echo.farEnd engine.rack).Fits engine.format.bandLength)
    (rate : (echo.farEnd engine.rack).samplesPerMs = engine.format.rate.bandSamplesPerMs)
    (below : engine.delay.ms ≤ StreamDelay.limit) (tapped : 1 ≤ (echo.farEnd engine.rack).taps) :
    (echo.farEnd engine.rack).context engine.format.bandLength
        ((echo.farEnd engine.rack).delayOf engine.delay.ms) = engine.farContext echo heard ∧
      (engine.farContext echo heard).length =
        echo.filterMs * engine.format.rate.bandSamplesPerMs - 1 := by
  obtain ⟨delay, short, taps, enough⟩ := line_reaches known fits rate below
  have context := known.context fits short tapped
  rw [delay]
  rw [taps] at context
  refine ⟨context, ?_⟩
  rw [farContext, List.length_reverse]
  exact length_ending (by omega)

/-- There are taps at every rate. -/
theorem tapCount_pos (engine : Engine) : 1 ≤ engine.tapCount := by
  simp only [tapCount]
  cases engine.format.rate <;> decide

/-- A channel that has all its taps meets the values of a line with them that are told by their
age. -/
theorem run_eq_filterWindows {heard : List Scalar} {channel : EchoCanceller.Channel}
    (taps : channel.weights.length = engine.tapCount)
    (reference : (engine.farReference .canceller heard).length = engine.format.bandLength)
    (context : (engine.farContext .canceller heard).length = engine.tapCount - 1)
    (enough : engine.delayValues + engine.format.bandLength + engine.tapCount ≤
      ((EchoEffect.canceller.farEnd engine.rack).line heard).length) (near : List Sample) :
    let met := (List.range engine.format.bandLength).map (engine.tapValues heard)
    let filtered := EchoCanceller.filterWindows (10000.0 * Float32.ofNat engine.tapCount)
      channel.weights (near.zip met)
    channel.run (engine.farContext .canceller heard) near (engine.farReference .canceller heard) =
      { channel with
        weights := filtered.1
        left := filtered.2.map (·.left)
        echo := filtered.2.map (·.echo) } := by
  have tapped := tapCount_pos engine
  have reach : channel.weights.length ≤ (engine.farContext .canceller heard).length + 1 := by
    omega
  have windows : (List.range engine.format.bandLength).map
        (EchoCanceller.window engine.tapCount (engine.farContext .canceller heard)
          (engine.farReference .canceller heard)) =
      (List.range engine.format.bandLength).map (engine.tapValues heard) := by
    refine List.map_congr_left ?_
    intro instant inside
    exact EchoCanceller.window_ending tapped (by omega) (List.mem_range.mp inside)
  have ran := EchoCanceller.Channel.run_eq reach near (engine.farReference .canceller heard)
  rw [taps, reference, windows] at ran
  exact ran

/-- An echo canceller that finds the parameters it needs is not refused, and cancels with what was
heard. -/
theorem cancelsWith (bounded : engine.Bounded) {heard : List Scalar}
    (known : (EchoEffect.canceller.farEnd engine.rack).Remembers EchoEffect.canceller.filterMs
      heard)
    {rack : Rack} {audio : StreamBuffer} (reaches : engine.Reaches frame .echoCanceller rack audio)
    (enabled : rack.echoCanceller.enabled = true)
    (complete : rack.echoCanceller.lacksParameter engine.delay = false) :
    engine.CancelsWith heard rack audio := by
  have same := reaches.echoCanceller
  have sized := bounded.sized (same ▸ enabled)
  have made : engine.rack.echoCanceller.MadeFor engine.format := sized.made
  have rate := made.1.samplesPerMs
  obtain ⟨-, -, taps, enough⟩ := line_reaches known made.1.fits rate bounded.delay.2
  have tapped : 1 ≤ (EchoEffect.canceller.farEnd engine.rack).taps := by
    rw [taps]
    exact tapCount_pos engine
  obtain ⟨reference, length⟩ := reference_eq known made.1.fits rate bounded.delay.2
  obtain ⟨context, contextLength⟩ := context_eq known made.1.fits rate bounded.delay.2 tapped
  obtain ⟨count, bandLength⟩ := reaches.size bounded.stored
  have fits : rack.echoCanceller.farEnd.Fits audio.bandLength ∧
      audio.channelCount ≤ rack.echoCanceller.channels.length := by
    rw [same, count, bandLength, made.2]
    exact ⟨made.1.fits, Nat.le_refl _⟩
  have aligned : EchoCanceller.align rack.echoCanceller.farEnd audio.bandLength engine.delay.ms =
      { past := engine.farContext .canceller heard
        reference := engine.farReference .canceller heard
        power := EchoCanceller.power (engine.farReference .canceller heard) } := by
    rw [same, bandLength, ← reference, ← context]
    rfl
  rw [taps] at enough
  refine ⟨length, contextLength, ?_, ?_, ?_⟩
  · rw [EchoCanceller.capture_of_on enabled, if_neg (by simp [complete]), if_pos fits, aligned,
      EchoCanceller.power_eq (reference_isEmpty length)]
  · intro instant inside
    rw [tapValues, List.length_reverse]
    exact length_ending (by simp only [tapCount]; omega)
  · intro channel member near
    rw [same] at member
    have size := (sized.channels channel member).weights
    exact run_eq_filterWindows (size.trans taps) length contextLength enough near

/-- The number of values in a band tells the number of values in a millisecond. -/
theorem bandSamplesPerMs_of_bandLength {first second : SampleRate}
    (same : first.bandLength = second.bandLength) :
    first.bandSamplesPerMs = second.bandSamplesPerMs := by
  cases first <;> cases second <;> first | rfl | (revert same; decide)

/-- Mobile echo control that takes a frame compares with what was heard, also when it was made for
another rate with bands of the same length. -/
theorem controlsWith (bounded : engine.Bounded) {heard : List Scalar}
    (known : (EchoEffect.mobile.farEnd engine.rack).Remembers EchoEffect.mobile.filterMs heard)
    {made : Format} (madeFor : engine.rack.MadeFor made .mobileEchoControl)
    {rack : Rack} {audio : StreamBuffer}
    (reaches : engine.Reaches frame .mobileEchoControl rack audio)
    (enabled : rack.mobileEchoControl.enabled = true)
    (taken : (rack.mobileEchoControl.capture engine.delay audio).fault = none) :
    engine.ControlsWith heard rack audio := by
  have same := reaches.mobileEchoControl
  obtain ⟨-, bandLength⟩ := reaches.size bounded.stored
  rw [MobileEchoControl.capture_of_on enabled] at taken
  split at taken
  case isTrue => cases taken
  case isFalse given =>
    split at taken
    case isFalse => cases taken
    case isTrue fits =>
      have atHand : engine.rack.mobileEchoControl.farEnd.Fits engine.format.bandLength := by
        rw [← same, ← bandLength]
        exact fits.1
      obtain ⟨-, farEnd, -⟩ := madeFor
      have rate := farEnd.samplesPerMs.trans
        (bandSamplesPerMs_of_bandLength (farEnd.fits_iff.mp atHand))
      obtain ⟨reference, length⟩ := reference_eq known atHand rate bounded.delay.2
      refine ⟨length, ?_⟩
      have compared : rack.mobileEchoControl.farEnd.reference audio.bandLength
          (rack.mobileEchoControl.farEnd.delayOf engine.delay.ms) =
            engine.farReference .mobile heard := by
        rw [same, bandLength, ← reference]
        rfl
      rw [MobileEchoControl.capture_of_on enabled, if_neg given, if_pos fits, compared,
        MobileEchoControl.power_eq (reference_isEmpty length)]

/-- The far-end histories lose nothing and repeat nothing.

After every run each of the two echo effects holds the last values, as many as its history has, of
silence followed by all that it heard since it was prepared: the mean of the bands of every frame to
the loudspeaker that it took in, in order. The history of an effect that is on has room for the
longest delay, the taps of its filter and a frame of the format that it was prepared for.

A captured frame is therefore compared with the frame of far-end values that ends as many values
before the newest one as the reported delay says, which lies between zero and the limit, and the
echo canceller finds all the values before it that its taps reach back to. -/
theorem histories_keep_what_was_heard {blueprint : Blueprint} {created : Engine}
    (made : (create blueprint).1 = .ok created) (calls : List Call)
    (wellFormed : ∀ call ∈ calls, call.WellFormed) :
    let engine := (created.run calls).2
    (∀ echo : EchoEffect, (echo.farEnd engine.rack).history =
      (List.replicate (echo.farEnd engine.rack).history.length 0.0 ++
        created.heardSince echo calls).rtake (echo.farEnd engine.rack).history.length) ∧
    (∀ echo : EchoEffect, engine.rack.isEnabled echo.kind = true → ∃ format,
      (created.remember Past.after {} calls).lastPrepared echo.kind = some format ∧
        (echo.farEnd engine.rack).history.length =
          (500 + echo.filterMs) * format.rate.bandSamplesPerMs + format.bandLength) ∧
    (0 ≤ engine.delay.ms ∧ engine.delay.ms ≤ 500) ∧
    (∀ frame rack audio, engine.Reaches frame .echoCanceller rack audio →
      rack.echoCanceller.enabled = true →
      rack.echoCanceller.lacksParameter engine.delay = false →
      engine.CancelsWith (created.heardSince .canceller calls) rack audio) ∧
    ∀ frame rack audio, engine.Reaches frame .mobileEchoControl rack audio →
      rack.mobileEchoControl.enabled = true →
      (rack.mobileEchoControl.capture engine.delay audio).fault = none →
      engine.ControlsWith (created.heardSince .mobile calls) rack audio := by
  intro engine
  have bounded : engine.Bounded :=
    Reachable.bounded ⟨blueprint, calls, created, made, wellFormed, rfl⟩
  have known := remembers_run made calls wellFormed
  have tells := (tells_of_run made wellFormed).made
  refine ⟨fun echo => (known echo).history, ?_, bounded.delay, ?_, ?_⟩
  · intro echo enabled
    obtain ⟨format, last, madeFor⟩ := tells echo.kind enabled
    have farEnd : (echo.farEnd engine.rack).MadeFor format echo.filterMs := by
      cases echo with
      | canceller => exact madeFor.1
      | mobile => exact madeFor.2.1
    have total : (echo.farEnd engine.rack).history.length = (echo.farEnd engine.rack).maxDelay +
        (echo.farEnd engine.rack).taps + format.bandLength := farEnd.fits
    rw [farEnd.maxDelay, farEnd.taps, ← Nat.add_mul] at total
    exact ⟨format, last, total⟩
  · intro frame rack audio reaches enabled complete
    exact cancelsWith bounded (known .canceller) reaches enabled complete
  · intro frame rack audio reaches enabled taken
    have on : engine.rack.mobileEchoControl.enabled = true := by
      rw [← reaches.mobileEchoControl]
      exact enabled
    obtain ⟨format, -, madeFor⟩ := tells .mobileEchoControl on
    exact controlsWith bounded (known .mobile) madeFor reaches enabled taken

/-- A high-pass filter and a gain control that are off leave a frame to the echo canceller. -/
theorem runEach_of_off {rack : Rack} (highPass : rack.highPass.enabled = false)
    (gainControl : rack.gainControl.enabled = false) (delay : StreamDelay) (audio : StreamBuffer) :
    CaptureStage.runEach delay (CaptureStage.order.takeWhile (· ≠ .echoCanceller)) rack audio =
      (none, rack, audio) := by
  have before : CaptureStage.order.takeWhile (· ≠ .echoCanceller) = [.highPass, .measureGain] := by
    decide
  rw [before]
  simp [CaptureStage.runEach, CaptureStage.run, HighPass.capture_of_off highPass,
    GainControl.measure_of_off gainControl, Pass.done]

/-- A frame of two channels to the loudspeaker in which both rise, the second one faster. -/
def risingFrame : Frame :=
  { rate := 8000, channelCount := 2, length := 80
    data := (List.range 80).flatMap fun instant => [.ofNat instant, .ofNat (3 * instant + 1)] }

/-- A frame of two channels to the loudspeaker that do not move. -/
def levelFrame : Frame :=
  { rate := 8000, channelCount := 2, length := 80
    data := (List.range 80).flatMap fun _ => [-1, -2] }

/-- An engine with two channels to the loudspeaker and an echo canceller that just went on. -/
def listening : List Call :=
  [.setRate 8000, .setReverseChannels 2, .enable .echoCanceller true]

/-- The means of the two channels of the rising frame. -/
def risingValues : List Scalar :=
  (List.range 80).map fun instant => Float32.ofNat (4 * instant + 1) / 2.0

/-- The means of the two channels of the frame that does not move. -/
def levelValues : List Scalar := List.replicate 80 (-1.5)

/-- The engine hears both frames before a delay of ten milliseconds is reported. -/
def hearing : List Call := listening ++ [.render risingFrame, .render levelFrame, .reportDelay 10]

/-- In each of the two frames the canceller hears the means. -/
theorem heardSince_hearing :
    (blank 0 {}).heardSince .canceller hearing = risingValues ++ levelValues := by
  have made : (create {}).1 = .ok (blank 0 {}) := rfl
  have nothing : (blank 0 {}).heardSince .canceller listening = [] := rfl
  have first := heardSince_render made listening risingFrame (by decide) (by decide +kernel)
  have rising : ((blank 0 {}).run listening).2.farValues risingFrame = risingValues := by
    decide +kernel
  have second := heardSince_render made (listening ++ [.render risingFrame]) levelFrame
    (by decide +kernel) (by decide +kernel)
  have level : ((blank 0 {}).run (listening ++ [.render risingFrame])).2.farValues levelFrame =
      levelValues := by
    decide +kernel
  have last := heardSince_concat (blank 0 {}) .canceller
    (listening ++ [.render risingFrame] ++ [.render levelFrame]) (.reportDelay 10)
  rw [second, first, nothing, rising, level] at last
  exact last.trans (List.append_nil _)

/-- What the canceller heard is at the end of its history, behind silence that is shorter by as
much. A captured frame is cancelled with the rising frame: the other one came ten milliseconds
later. -/
theorem histories_keep_what_was_heard_first :
    let engine := ((blank 0 {}).run hearing).2
    ((create {}).1 = .ok (blank 0 {}) ∧ ∀ call ∈ hearing, call.WellFormed) ∧
    (EchoEffect.canceller.farEnd engine.rack).history =
      List.replicate 3984 0.0 ++ (risingValues ++ levelValues) ∧
    engine.farReference .canceller (risingValues ++ levelValues) = risingValues ∧
    engine.CancelsWith (risingValues ++ levelValues) engine.rack
      (engine.loadCaptured (.silent 8000 1 80)) := by
  intro engine
  have made : (create {}).1 = .ok (blank 0 {}) := rfl
  have wellFormed : ∀ call ∈ hearing, call.WellFormed := by decide +kernel
  obtain ⟨held, -, -, cancels, -⟩ := histories_keep_what_was_heard made hearing wellFormed
  have its := held .canceller
  rw [heardSince_hearing] at its cancels
  have long : (EchoEffect.canceller.farEnd engine.rack).history.length = 3984 + 160 := by
    decide +kernel
  have few : (risingValues ++ levelValues).length = 160 := by decide +kernel
  refine ⟨⟨made, wellFormed⟩, ?_, ?_, ?_⟩
  · rw [its, ← FarEnd.line, FarEnd.rtake_line, FarEnd.line, few,
      List.drop_append_of_le_length (by rw [List.length_replicate, long]; decide),
      List.drop_replicate, long]
  · have sizes : engine.delayValues = levelValues.length ∧
        engine.format.bandLength = risingValues.length := by decide +kernel
    rw [farReference, FarEnd.line, sizes.1, sizes.2, ← List.append_assoc]
    exact ending_append _ risingValues levelValues
  · have off : engine.rack.highPass.enabled = false ∧ engine.rack.gainControl.enabled = false := by
      decide +kernel
    refine cancels (.silent 8000 1 80) _ _ ⟨?_, ?_, runEach_of_off off.1 off.2 _ _⟩ ?_ ?_
    all_goals decide +kernel

end Engine

end VoiceEngine
