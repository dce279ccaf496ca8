import VoiceEngine.Proofs.Downmix
import VoiceEngine.Proofs.Openings
import VoiceEngine.Proofs.Schedules
import VoiceEngine.Proofs.Streaming

/-!
# The engine with everything off

With every effect off and nothing recorded an engine still takes each captured frame apart, mixes it
down if fewer channels leave than arrive, splits it into bands and merges these at the highest rate,
and puts the channels together again. What leaves is then the frame that came, or the mean of its
channels. At the highest rate it is the signal of each channel after one way through the bands and
back: the memories of both directions carry over from frame to frame, so that where the frames cut
the signal does not show.
-/

namespace VoiceEngine

namespace SplitBands

/-- A signal on its way through the two bands and back, and the memories of splitting and of merging
afterwards. -/
def roundTrip (memories : Memory × Memory) (signal : List Sample) :
    List Sample × Memory × Memory :=
  let (low, high, splitting) := split memories.1 signal
  let (full, merging) := merge memories.2 low high
  (full, splitting, merging)

/-- A block of even length and what follows it pass through the bands one after the other. -/
theorem roundTrip_append (memories : Memory × Memory) (length : Nat) (first second : List Sample)
    (even : first.length = 2 * length) :
    roundTrip memories (first ++ second) =
      ((roundTrip memories first).1 ++ (roundTrip (roundTrip memories first).2 second).1,
        (roundTrip (roundTrip memories first).2 second).2) := by
  obtain ⟨low, high⟩ := length_split memories.1 length first even
  simp only [roundTrip]
  rw [split_append memories.1 length first second even]
  dsimp only
  rw [merge_append memories.2 _ _ _ _ (low.trans high.symm)]

end SplitBands

namespace StreamBuffer

variable {buffer : StreamBuffer} {format : Format} {channel : Nat}

/-- The memories that carry the bands of a channel from frame to frame, at rest where there are
none. -/
def memories (buffer : StreamBuffer) (channel : Nat) : SplitBands.Memory × SplitBands.Memory :=
  match buffer.bands[channel]? with
  | some pair => (pair.splitting, pair.merging)
  | none => ({}, {})

/-- New storage has every memory at rest. -/
theorem memories_ofFormat (format : Format) (channel : Nat) :
    (ofFormat format).memories channel = ({}, {}) := by
  simp only [memories, ofFormat]
  split
  case h_1 pair found =>
    split at found
    · rw [List.eq_of_mem_replicate (List.mem_of_getElem? found)]
    · cases found
  case h_2 => rfl

/-- Storage for a format that is not split has no bands. -/
theorem Shaped.bands_eq_nil (shaped : buffer.Shaped format) (whole : format.rate.isSplit = false) :
    buffer.bands = [] := by
  have count := shaped.lows.1
  simpa [Format.splitChannels, whole] using count

/-- Storage without bands is neither split nor merged. -/
theorem splitChannels_of_whole (whole : buffer.bands = []) (count : Nat) :
    buffer.splitChannels count = buffer := by
  refine List.foldlRecOn (motive := fun now : StreamBuffer => now = buffer) (List.range count) _
    rfl ?_
  rintro now rfl other -
  simp [splitChannel, whole]

/-- Storage without bands is neither split nor merged. -/
theorem mergeChannels_of_whole (whole : buffer.bands = []) (count : Nat) :
    buffer.mergeChannels count = buffer := by
  refine List.foldlRecOn (motive := fun now : StreamBuffer => now = buffer) (List.range count) _
    rfl ?_
  rintro now rfl other -
  simp [mergeChannel, whole]

/-- The first channel of storage with one is passed through the bands and back, and its memories
with it. -/
theorem roundTrip_alone {pair : BandPair} {row : List Sample} (single : buffer.channels = [row])
    (banded : buffer.bands = [pair]) :
    ((buffer.splitChannels 1).mergeChannels 1).channels[0]? =
        some (SplitBands.roundTrip (pair.splitting, pair.merging) row).1 ∧
      ((buffer.splitChannels 1).mergeChannels 1).memories 0 =
        (SplitBands.roundTrip (pair.splitting, pair.merging) row).2 := by
  rcases bands : SplitBands.split pair.splitting row with ⟨low, high, splitting⟩
  rcases full : SplitBands.merge pair.merging low high with ⟨merged, merging⟩
  simp [splitChannels, mergeChannels, splitChannel, mergeChannel, fullBand, memories, single,
    banded, SplitBands.roundTrip, bands, full]

/-- A channel that is split and at once merged again is passed through the bands and back, and its
memories with it, whatever the other channels hold. -/
theorem roundTrip_channel {pair : BandPair} {row : List Sample}
    (here : buffer.channels[channel]? = some row) (banded : buffer.bands[channel]? = some pair)
    {count fewer : Nat} (inside : channel < fewer) (ordered : fewer ≤ count) :
    ((buffer.splitChannels count).mergeChannels fewer).channels[channel]? =
        some (SplitBands.roundTrip (buffer.memories channel) row).1 ∧
      ((buffer.splitChannels count).mergeChannels fewer).memories channel =
        (SplitBands.roundTrip (buffer.memories channel) row).2 := by
  obtain ⟨narrow, lane, single, alone⟩ : ∃ narrow : StreamBuffer, buffer.Lane channel narrow ∧
      narrow.channels = [row] ∧ narrow.bands = [pair] :=
    ⟨{ buffer with
        channels := [row]
        bands := [pair]
        snapshots := buffer.snapshots.drop channel },
      { bandLength := rfl
        snapshotTaken := rfl
        channels := here
        bands := banded
        snapshots := by rw [List.getElem?_drop, Nat.add_zero] }, rfl, rfl⟩
  have passed := (lane.splitChannels (Nat.lt_of_lt_of_le inside ordered)).mergeChannels inside
  have before : buffer.memories channel = (pair.splitting, pair.merging) := by
    simp only [memories, banded]
  obtain ⟨full, after⟩ := roundTrip_alone single alone
  rw [before, passed.channels, ← after]
  exact ⟨full, by simp only [memories, passed.bands]⟩

end StreamBuffer

/-- Stages whose effects are off pass every frame and change nothing. -/
theorem CaptureStage.run_of_off {rack : Rack} (off : ∀ kind, rack.isEnabled kind = false)
    (delay : StreamDelay) (audio : StreamBuffer) (stage : CaptureStage) :
    stage.run delay rack audio = .done rack audio := by
  cases stage with
  | highPass =>
    simp only [run]
    rw [HighPass.capture_of_off (off .highPass)]
    rfl
  | measureGain =>
    simp only [run]
    rw [GainControl.measure_of_off (off .gainControl)]
  | echoCanceller =>
    simp only [run]
    rw [EchoCanceller.capture_of_off (off .echoCanceller)]
    rfl
  | snapshot =>
    have idle : ¬ (rack.mobileEchoControl.enabled = true ∧
        rack.noiseSuppressor.enabled = true) := by
      rintro ⟨on, -⟩
      cases on.symm.trans (off .mobileEchoControl)
    simp only [run, if_neg idle]
  | noiseSuppressor =>
    simp only [run]
    rw [NoiseSuppressor.capture_of_off (off .noiseSuppressor)]
    rfl
  | mobileEchoControl =>
    simp only [run]
    rw [MobileEchoControl.capture_of_off (off .mobileEchoControl)]
    rfl
  | voiceDetector =>
    simp only [run]
    rw [VoiceDetector.capture_of_off (off .voiceDetector)]
  | applyGain =>
    simp only [run]
    rw [GainControl.capture_of_off (off .gainControl)]
    rfl
  | levelMeter =>
    simp only [run]
    rw [LevelMeter.capture_of_off (off .levelMeter)]

/-- So do any number of them in a row. -/
theorem CaptureStage.runEach_of_off {rack : Rack} (off : ∀ kind, rack.isEnabled kind = false)
    (delay : StreamDelay) (stages : List CaptureStage) (audio : StreamBuffer) :
    runEach delay stages rack audio = (none, rack, audio) := by
  induction stages with
  | nil => rfl
  | cons stage stages inductionHypothesis =>
    rw [runEach, run_of_off off]
    exact inductionHypothesis

/-- What a format makes of a captured frame before it is split: the mean of its channels when
fewer channels leave than arrive, and otherwise the frame itself. -/
def Format.passes (format : Format) (frame : Frame) : Frame :=
  if format.mixesDown then frame.mixed else frame

/-- What becomes of a frame that matches has the channels that leave. -/
theorem Format.passes_spec {format : Format} (supported : format.Supported) {frame : Frame}
    (wellFormed : frame.WellFormed) (matching : frame.Matches format format.inputChannels) :
    (format.passes frame).WellFormed ∧
      (format.passes frame).Matches format format.outputChannels := by
  obtain ⟨rate, count, length⟩ := matching
  obtain ⟨leaves, fewer, arrives, -⟩ := supported
  have two : maxChannels = 2 := rfl
  simp only [passes]
  by_cases mixes : format.mixesDown = true
  · have less : format.outputChannels < format.inputChannels := by simpa [mixesDown] using mixes
    have first := frame.length_channel 0 wellFormed (by omega)
    have second := frame.length_channel 1 wellFormed (by omega)
    rw [if_pos mixes]
    refine ⟨?_, rate, ?_, length⟩
    · simp [Frame.WellFormed, Frame.mixed, first, second]
    · show 1 = format.outputChannels
      omega
  · have same : ¬ format.outputChannels < format.inputChannels := by
      simpa [mixesDown] using mixes
    rw [if_neg mixes]
    exact ⟨wellFormed, rate, by omega, length⟩

/-- Other samples make the same frame of two that have the same rate and length. -/
theorem Frame.withChannels_congr {frame other : Frame} (rate : frame.rate = other.rate)
    (length : frame.length = other.length) (rows : List (List Sample)) :
    frame.withChannels rows = other.withChannels rows := by
  simp only [withChannels, rate, length]

namespace Engine

variable {engine : Engine} {frame : Frame}

/-- The captured stream with a frame loaded and mixed down. -/
def mixCaptured (engine : Engine) (frame : Frame) : StreamBuffer :=
  let loaded := engine.capturing.load frame
  if engine.format.mixesDown then loaded.mixDown engine.format.outputChannels else loaded

/-- The storage then holds the channels of what the format makes of the frame, and the bands of the
frame before. -/
theorem mixCaptured_spec (supported : engine.format.Supported)
    (matching : frame.Matches engine.format engine.format.inputChannels) :
    (engine.mixCaptured frame).channels.take engine.format.outputChannels =
        (engine.format.passes frame).channels ∧
      (engine.mixCaptured frame).bands = engine.capturing.bands := by
  obtain ⟨-, count, -⟩ := matching
  obtain ⟨leaves, fewer, arrives, -⟩ := supported
  have two : maxChannels = 2 := rfl
  simp only [mixCaptured, Format.passes]
  by_cases mixes : engine.format.mixesDown = true
  · have less : engine.format.outputChannels < engine.format.inputChannels := by
      simpa [Format.mixesDown] using mixes
    have mono : engine.format.outputChannels = 1 := by omega
    have stereo : frame.channelCount = 2 := by omega
    have several : ¬ (engine.capturing.load frame).channelCount ≤ 1 := by
      rw [StreamBuffer.channelCount_load, stereo]
      decide
    rw [if_pos mixes, if_pos mixes, mono, StreamBuffer.mixDown, if_neg several,
      Frame.channels_mixed]
    exact ⟨by simp [StreamBuffer.load, stereo, Frame.channels_of_stereo stereo,
      StreamBuffer.meanChannel_pair], rfl⟩
  · have same : ¬ engine.format.outputChannels < engine.format.inputChannels := by
      simpa [Format.mixesDown] using mixes
    have all : frame.channels.length = engine.format.outputChannels := by
      simp only [Frame.channels, List.length_map, List.length_range]
      omega
    rw [if_neg mixes, if_neg mixes]
    exact ⟨List.take_left' all, rfl⟩

/-- The captured stream with a frame loaded, mixed down, split and at once merged again. -/
def passThrough (engine : Engine) (frame : Frame) : StreamBuffer :=
  ((engine.mixCaptured frame).splitChannels engine.format.inputChannels).mergeChannels
    engine.format.outputChannels

/-- With every effect off nothing else happens to a frame. -/
theorem process_of_off (off : ∀ kind, engine.rack.isEnabled kind = false) (frame : Frame) :
    (engine.process frame).1.result = .ok () ∧
      (engine.process frame).1.state = { engine with capturing := engine.passThrough frame } ∧
      (engine.process frame).2 =
        (engine.passThrough frame).store (engine.frameInWork frame) := by
  simp only [process]
  rw [CaptureStage.runEach_of_off off]
  exact ⟨rfl, rfl, rfl⟩

/-- An engine with every effect off and nothing recorded. -/
structure Idle (engine : Engine) : Prop where
  supported : engine.format.Supported
  capturing : engine.capturing.Shaped engine.format
  off : ∀ kind, engine.rack.isEnabled kind = false
  recorder : engine.recorder = {}

namespace Idle

/-- An idle engine takes a frame that matches, and leaves it with the channels of its storage. -/
theorem capture_eq (idle : engine.Idle)
    (matching : frame.Matches engine.format engine.format.inputChannels) :
    (engine.capture frame).1.result = .ok () ∧
      (engine.capture frame).1.state = { engine with capturing := engine.passThrough frame } ∧
      (engine.capture frame).2 = frame.withChannels
        ((engine.passThrough frame).channels.take engine.format.outputChannels) := by
  have fits := frameFault_eq_none_iff.mpr matching
  obtain ⟨result, state, final⟩ := process_of_off idle.off frame
  have count : (engine.passThrough frame).channelCount = engine.format.outputChannels := by
    rw [passThrough, StreamBuffer.channelCount_mergeChannels]
    exact (loadCaptured_size engine idle.supported fits).1
  have worked : (engine.frameInWork frame).rate = frame.rate ∧
      (engine.frameInWork frame).length = frame.length := by
    simp only [frameInWork]
    split <;> exact ⟨rfl, rfl⟩
  rw [capture_of_idle idle.recorder, fits]
  refine ⟨result, state, final.trans ?_⟩
  rw [StreamBuffer.store, count]
  exact Frame.withChannels_congr worked.1 worked.2 _

/-- After a captured frame that matches the storage still has its shape. -/
theorem shaped_capture (idle : engine.Idle) (wellFormed : frame.WellFormed)
    (matching : frame.Matches engine.format engine.format.inputChannels) :
    (engine.passThrough frame).Shaped engine.format :=
  (shaped_loadCaptured engine idle.supported idle.capturing wellFormed
    (frameFault_eq_none_iff.mpr matching)).mergeChannels engine.format.outputChannels

/-- At the lower rates what leaves is what the format makes of the frame. -/
theorem capture_whole (idle : engine.Idle) (wellFormed : frame.WellFormed)
    (matching : frame.Matches engine.format engine.format.inputChannels)
    (whole : engine.format.rate.isSplit = false) :
    (engine.capture frame).2 = engine.format.passes frame := by
  obtain ⟨channels, bands⟩ := mixCaptured_spec idle.supported matching
  obtain ⟨passedWell, rate, count, length⟩ :=
    Format.passes_spec idle.supported wellFormed matching
  have none_split : (engine.mixCaptured frame).bands = [] :=
    bands.trans (idle.capturing.bands_eq_nil whole)
  have leaves := idle.supported.1
  rw [(idle.capture_eq matching).2.2, passThrough, StreamBuffer.splitChannels_of_whole none_split,
    StreamBuffer.mergeChannels_of_whole none_split, channels,
    Frame.withChannels_congr (matching.1.trans rate.symm) (matching.2.2.trans length.symm),
    Frame.withChannels_channels _ passedWell (by omega)]

/-- At the highest rate every channel that leaves is that of what the format makes of the frame,
after one way through the bands and back. -/
theorem capture_split (idle : engine.Idle) (wellFormed : frame.WellFormed)
    (matching : frame.Matches engine.format engine.format.inputChannels)
    (split : engine.format.rate.isSplit = true) {channel : Nat}
    (inside : channel < engine.format.outputChannels) :
    (engine.capture frame).2.channel channel =
        (SplitBands.roundTrip (engine.capturing.memories channel)
          ((engine.format.passes frame).channel channel)).1 ∧
      (engine.capture frame).1.state.capturing.memories channel =
        (SplitBands.roundTrip (engine.capturing.memories channel)
          ((engine.format.passes frame).channel channel)).2 := by
  obtain ⟨channels, bands⟩ := mixCaptured_spec idle.supported matching
  obtain ⟨-, -, count, -⟩ := Format.passes_spec idle.supported wellFormed matching
  obtain ⟨leaves, fewer, arrives, -⟩ := idle.supported
  obtain ⟨-, state, final⟩ := idle.capture_eq matching
  have shaped := idle.shaped_capture wellFormed matching
  have here : (engine.mixCaptured frame).channels[channel]? =
      some ((engine.format.passes frame).channel channel) := by
    rw [← List.getElem?_take_of_lt inside, channels, Frame.channels, List.getElem?_map,
      List.getElem?_range (count.symm ▸ inside)]
    rfl
  have several : channel < engine.capturing.bands.length := by
    have banded := idle.capturing.lows.1
    simp only [List.length_map, Format.splitChannels, split, if_true] at banded
    omega
  have banded : (engine.mixCaptured frame).bands[channel]? =
      some engine.capturing.bands[channel] := by
    rw [bands, List.getElem?_eq_getElem several]
  have same : (engine.mixCaptured frame).memories channel = engine.capturing.memories channel := by
    simp only [StreamBuffer.memories, bands]
  obtain ⟨full, memories⟩ := StreamBuffer.roundTrip_channel here banded inside fewer
  rw [same] at full memories
  rw [state, final]
  refine ⟨Frame.channel_withChannels frame ?_ ?_, memories⟩
  · intro row member
    rw [shaped.channels.2 row (List.mem_of_mem_take member), matching.2.2]
  · rw [List.getElem?_take_of_lt inside, passThrough, full]

/-- A frame that an idle engine takes leaves at its rate and length with the channels that leave. -/
theorem capture_shape (idle : engine.Idle) (wellFormed : frame.WellFormed)
    (matching : frame.Matches engine.format engine.format.inputChannels) :
    (engine.capture frame).2.WellFormed ∧
      (engine.capture frame).2.Matches engine.format engine.format.outputChannels := by
  obtain ⟨-, -, final⟩ := idle.capture_eq matching
  have shaped := idle.shaped_capture wellFormed matching
  have enough := Nat.le_trans idle.supported.2.1 idle.supported.2.2.1
  rw [final]
  refine ⟨Frame.wellFormed_withChannels frame _ ?_, matching.1, ?_, matching.2.2⟩
  · intro row member
    rw [shaped.channels.2 row (List.mem_of_mem_take member), matching.2.2]
  · simp only [Frame.withChannels, List.length_take, shaped.channels.1]
    exact Nat.min_eq_left enough

/-- A captured frame that matches leaves an idle engine idle. -/
theorem perform_capture (idle : engine.Idle) (wellFormed : frame.WellFormed)
    (matching : frame.Matches engine.format engine.format.inputChannels) :
    (engine.perform (.capture frame)).result = .ok (.frame (engine.capture frame).2) ∧
      (engine.perform (.capture frame)).state.format = engine.format ∧
      (engine.perform (.capture frame)).state.Idle := by
  obtain ⟨result, state, -⟩ := idle.capture_eq matching
  have shaped := idle.shaped_capture wellFormed matching
  have same : (engine.perform (.capture frame)).state = (engine.capture frame).1.state := rfl
  rw [same, state]
  refine ⟨?_, rfl, idle.supported, shaped, idle.off, idle.recorder⟩
  simp only [perform, replying, result]
  rfl

end Idle

end Engine

namespace Call

/-- The frame from the microphone that a call hands over. -/
def captured? : Call → Option Frame
  | capture frame => some frame
  | _ => none

/-- A call that starts nothing anew, switches nothing on and begins no recording. A captured frame
matches the format. -/
def Quiet (format : Format) : Call → Prop
  | capture frame => frame.WellFormed ∧ frame.Matches format format.inputChannels
  | enable _ enabled => enabled = false
  | restart | setRate _ | setChannels _ _ | setReverseChannels _ => False
  | record _ | recordFile _ _ => False
  | _ => True

end Call

namespace Engine

variable {engine : Engine}

/-- Only a captured frame and a start touch the storage of the captured stream. -/
theorem capturing_of_other {call : Call} (untargeted : call.target? engine.format = none)
    (other : call.captured? = none) :
    (engine.perform call).state.capturing = engine.capturing := by
  cases call with
  | restart => cases untargeted
  | setRate hz => cases untargeted
  | setChannels input output => cases untargeted
  | setReverseChannels channels => cases untargeted
  | capture frame => cases other
  | enable kind enabled =>
    dsimp only [perform, replying]
    rcases enable_cases kind enabled engine with ⟨_, -, state⟩ | ⟨_, -, -, -, -, -, state⟩ |
      ⟨-, -, state⟩
    all_goals rw [state]
  | adjust setting =>
    simp only [perform, adjust]
    dsimp only [replying]
    split <;> rfl
  | reportDelay ms =>
    simp only [perform, reportDelay]
    dsimp only [replying]
    split <;> rfl
  | render frame =>
    dsimp only [perform, replying]
    rcases render_cases engine frame with ⟨_, -, -, state⟩ | ⟨_, _, -, -, -, state⟩ |
      ⟨recorder, -, -, state⟩
    · rw [state]
    · rw [state]
    · obtain ⟨rack, delay, after, -, -⟩ := observe_state { engine with recorder } frame
      rw [state, after]
  | _ => rfl

/-- A quiet call without a captured frame leaves an idle engine idle and does not touch the storage
of the captured stream. -/
theorem Idle.perform_other (idle : engine.Idle) {call : Call} (quiet : call.Quiet engine.format)
    (other : call.captured? = none) :
    (engine.perform call).state.format = engine.format ∧
      (engine.perform call).state.capturing = engine.capturing ∧
      (engine.perform call).state.Idle := by
  have untargeted : call.target? engine.format = none := by
    cases call <;> first | exact quiet.elim | rfl
  have silent : ¬ call.Opens := by
    rintro ⟨opening, rfl⟩
    cases opening <;> exact quiet
  have capturing := capturing_of_other untargeted other
  have same : (engine.perform call).state.format = engine.format ∧
      ∀ kind, (engine.perform call).state.rack.isEnabled kind = false := by
    obtain ⟨kind, enabled, rfl⟩ | ⟨format, alike⟩ := perform_of_no_target untargeted
    · have off : enabled = false := quiet
      subst off
      have state : (engine.perform (.enable kind false)).state = (enable kind false engine).state :=
        rfl
      rw [state]
      rcases enable_cases kind false engine with ⟨_, -, after⟩ | ⟨_, impossible, -⟩ | ⟨-, -, after⟩
      · rw [after]
        exact ⟨rfl, idle.off⟩
      · cases impossible
      · rw [after]
        refine ⟨rfl, fun others => ?_⟩
        by_cases itself : others = kind
        · rw [itself]
          exact Rack.isEnabled_switch engine.rack false kind
        · exact (Rack.isEnabled_switch_of_ne engine.rack false itself).trans (idle.off others)
    · exact ⟨format, fun kind => (alike.enabled kind).trans (idle.off kind)⟩
  obtain ⟨format, off⟩ := same
  refine ⟨format, capturing, ?_, ?_, off, (idle_perform idle.recorder silent).1⟩
  · rw [format]
    exact idle.supported
  · rw [format, capturing]
    exact idle.capturing

/-- A captured channel of a frame that matches is as long as two bands. -/
theorem Idle.length_passes (idle : engine.Idle) {frame : Frame} (wellFormed : frame.WellFormed)
    (matching : frame.Matches engine.format engine.format.inputChannels)
    (split : engine.format.rate.isSplit = true) {channel : Nat}
    (inside : channel < engine.format.outputChannels) :
    ((engine.format.passes frame).channel channel).length = 2 * engine.format.bandLength := by
  obtain ⟨passed, -, count, length⟩ := Format.passes_spec idle.supported wellFormed matching
  rw [Frame.length_channel _ channel passed (count.symm ▸ inside), length,
    Format.frameLength_of_isSplit _ split]

/-- What a run answers to its captured frames. -/
def capturedAnswers (engine : Engine) (calls : List Call) : List (Except Fault Reply) :=
  ((engine.receipts calls).filter (·.call.isCapture)).map (·.result)

/-- A call without a captured frame adds no answer. -/
theorem capturedAnswers_other {call : Call} (other : call.captured? = none) (calls : List Call) :
    engine.capturedAnswers (call :: calls) = (engine.perform call).state.capturedAnswers calls := by
  have skipped : call.isCapture = false := by
    cases call <;> first | rfl | cases other
  simp [capturedAnswers, receipts_cons, receipt, skipped]

/-- A captured frame adds its answer. -/
theorem capturedAnswers_capture (frame : Frame) (calls : List Call) :
    engine.capturedAnswers (.capture frame :: calls) =
      (engine.perform (.capture frame)).result ::
        (engine.perform (.capture frame)).state.capturedAnswers calls :=
  rfl

/-- An idle engine takes every captured frame of a quiet run, and what leaves is what the format
makes of the frames: as they are at the lower rates, and at the highest rate with every channel
after one way through the bands and back, as if its frames were one. Induct along the calls: a
captured frame moves the memories of the bands as its samples do, and no other call moves them. -/
theorem Idle.run (idle : engine.Idle) (calls : List Call)
    (quiet : ∀ call ∈ calls, call.Quiet engine.format) :
    ∃ outputs : List Frame,
      engine.capturedAnswers calls = outputs.map (fun output => .ok (.frame output)) ∧
      (∀ output ∈ outputs, output.WellFormed ∧
        output.Matches engine.format engine.format.outputChannels) ∧
      (engine.format.rate.isSplit = false →
        outputs = (calls.filterMap Call.captured?).map engine.format.passes) ∧
      (engine.format.rate.isSplit = true → ∀ channel < engine.format.outputChannels,
        outputs.flatMap (·.channel channel) =
          (SplitBands.roundTrip (engine.capturing.memories channel)
            ((calls.filterMap Call.captured?).flatMap fun frame =>
              (engine.format.passes frame).channel channel)).1) := by
  induction calls generalizing engine with
  | nil =>
    refine ⟨[], rfl, List.forall_mem_nil _, fun _ => rfl, fun _ channel _ => ?_⟩
    rfl
  | cons call calls inductionHypothesis =>
    obtain ⟨first, later⟩ := List.forall_mem_cons.mp quiet
    cases captured : call.captured? with
    | none =>
      obtain ⟨format, capturing, stillIdle⟩ := idle.perform_other first captured
      obtain ⟨outputs, results, shapes, whole, split⟩ :=
        inductionHypothesis stillIdle (format.symm ▸ later)
      rw [format] at shapes whole split
      rw [capturing] at split
      rw [capturedAnswers_other captured, List.filterMap_cons_none captured]
      exact ⟨outputs, results, shapes, whole, split⟩
    | some frame =>
      obtain rfl : call = .capture frame := by
        cases call <;>
          first | exact congrArg Call.capture (Option.some.inj captured) | cases captured
      obtain ⟨wellFormed, matching⟩ := first
      obtain ⟨result, format, stillIdle⟩ := idle.perform_capture wellFormed matching
      obtain ⟨outputs, results, shapes, whole, split⟩ :=
        inductionHypothesis stillIdle (format.symm ▸ later)
      have shape := idle.capture_shape wellFormed matching
      rw [format] at shapes whole split
      rw [capturedAnswers_capture, List.filterMap_cons_some captured]
      refine ⟨(engine.capture frame).2 :: outputs, ?_, ?_, ?_, ?_⟩
      · rw [List.map_cons, results, result]
      · exact List.forall_mem_cons.mpr ⟨shape, shapes⟩
      · intro unsplit
        rw [whole unsplit, idle.capture_whole wellFormed matching unsplit]
        rfl
      · intro banded channel inside
        obtain ⟨block, memories⟩ := idle.capture_split wellFormed matching banded inside
        have even := idle.length_passes wellFormed matching banded inside
        have state : (engine.perform (.capture frame)).state = (engine.capture frame).1.state := rfl
        rw [List.flatMap_cons, List.flatMap_cons, split banded channel inside,
          SplitBands.roundTrip_append _ _ _ _ even, block, state, memories]

/-- An engine with every effect off is transparent once it was started anew, whatever was done with
it before, and for as long as nothing is switched on, started anew or recorded.

It takes every captured frame that matches, with other calls in between. At the lower rates what
leaves is the frame that came, or the mean of its two channels, rounded toward negative infinity,
when one leaves. At the highest rate all frames that leave, put together, are in every channel what
one way through the bands and back makes of all frames that came, put together, from memories at
rest. -/
theorem transparent_while_idle {engine : Engine} (reached : engine.Reachable) {start : Call}
    {format : Format} (accepted : start.target? engine.format = some (.ok format))
    (off : ∀ kind, (engine.perform start).state.rack.isEnabled kind = false)
    (silent : (engine.perform start).state.isRecording = false)
    (calls : List Call) (quiet : ∀ call ∈ calls, call.Quiet format) :
    let inputs := (calls.filterMap Call.captured?).map format.passes
    ∃ outputs : List Frame,
      (engine.perform start).state.capturedAnswers calls =
        outputs.map (fun output => .ok (.frame output)) ∧
      (∀ output ∈ outputs, output.WellFormed ∧ output.Matches format format.outputChannels) ∧
      (format.rate.isSplit = false → outputs = inputs) ∧
      (format.rate.isSplit = true → ∀ channel < format.outputChannels,
        outputs.flatMap (·.channel channel) =
          (SplitBands.roundTrip ({}, {}) (inputs.flatMap (·.channel channel))).1) := by
  have supported := supported_target reached.stored.supported accepted
  have started : (engine.perform start).state = (restart { engine with format }).state :=
    congrArg Outcome.state (perform_of_target accepted)
  have kept : (engine.perform start).state.format = format ∧
      (engine.perform start).state.capturing = .ofFormat format := by
    rw [started, restart_state]
    exact ⟨rfl, rfl⟩
  obtain ⟨same, capturing⟩ := kept
  have idle : (engine.perform start).state.Idle := by
    refine ⟨?_, ?_, off, recorder_of_idle silent⟩
    · rw [same]
      exact supported
    · rw [same, capturing]
      exact StreamBuffer.shaped_ofFormat format
  obtain ⟨outputs, answers, shapes, whole, split⟩ := idle.run calls (same.symm ▸ quiet)
  rw [same] at shapes whole split
  refine ⟨outputs, answers, shapes, whole, ?_⟩
  intro banded channel inside
  rw [split banded channel inside, capturing, StreamBuffer.memories_ofFormat, List.flatMap_map]

/-- A frame of two channels at the highest rate. -/
def evenFrame : Frame :=
  { rate := 32000, channelCount := 2, length := 320, data := List.replicate 640 7 }

/-- A run that hands over two such frames, and between them a frame to the loudspeaker that does not
match. -/
def evenCalls : List Call :=
  [.capture evenFrame, .render (Frame.silent 8000 2 1), .capture evenFrame]

/-- Behind a change to the highest rate an engine that mixes two channels down passes the mean of
both frames through the bands as one signal. -/
theorem transparent_while_idle_even :
    let format : Format := { inputChannels := 2 }
    let started := ((blank 0 format).perform (.setRate 32000)).state
    (create { inputChannels := 2 }).1 = .ok (blank 0 format) ∧
      (∀ kind, started.rack.isEnabled kind = false) ∧ started.isRecording = false ∧
      (∀ call ∈ evenCalls, call.Quiet { format with rate := .superWide }) ∧
      ∃ outputs : List Frame,
        started.capturedAnswers evenCalls = outputs.map (fun output => .ok (.frame output)) ∧
        outputs.flatMap (·.channel 0) =
          (SplitBands.roundTrip ({}, {}) (List.replicate 640 7)).1 := by
  intro format started
  have made : (create { inputChannels := 2 }).1 = .ok (blank 0 format) := rfl
  have reached : (blank 0 format).Reachable :=
    ⟨{ inputChannels := 2 }, [], blank 0 format, made, List.forall_mem_nil _, rfl⟩
  have off : ∀ kind, started.rack.isEnabled kind = false := by
    intro kind
    cases kind <;> rfl
  have fits : evenFrame.WellFormed ∧ evenFrame.Matches { format with rate := .superWide } 2 :=
    ⟨List.length_replicate, rfl, rfl, by decide⟩
  have quiet : ∀ call ∈ evenCalls, call.Quiet { format with rate := .superWide } :=
    List.forall_mem_cons.mpr ⟨fits, List.forall_mem_cons.mpr ⟨trivial,
      List.forall_mem_cons.mpr ⟨fits, List.forall_mem_nil _⟩⟩⟩
  have accepted : (Call.setRate 32000).target? (blank 0 format).format =
      some (.ok { format with rate := .superWide }) := rfl
  have signal : ((evenCalls.filterMap Call.captured?).map
      ({ format with rate := .superWide } : Format).passes).flatMap (·.channel 0) =
      List.replicate 640 7 := by decide +kernel
  obtain ⟨outputs, answers, -, -, split⟩ :=
    transparent_while_idle reached accepted off rfl evenCalls quiet
  refine ⟨made, off, rfl, quiet, outputs, answers, ?_⟩
  rw [split rfl 0 Nat.one_pos, signal]

end Engine

end VoiceEngine
