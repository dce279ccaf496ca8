import VoiceEngine.Proofs.Steps

/-!
# What becomes of a frame

A frame is refused because it does not match the format, lost because it could not be recorded,
or passed through the stages. In the last case the outcome is the first refusal of a stage, the
rack stays switched and made as it was, the storage keeps its shape, and a captured frame for
which no stage refused comes back with the channels that leave, each as long as before.

The two lemmas with the cases of a call carry the rest. They separate what is checked from what is
done, so that a fact about frames is a fact about the stages, and the matching frame is at hand
where the stages need it. Whether a frame can be recorded is kept as a condition on the sink,
because a sink may fail at any byte and says nothing about it beforehand.
-/

namespace VoiceEngine

namespace StreamBuffer

/-- Mixing down leaves the length of the bands: it writes the average into the first channel and
lowers the number in use. -/
@[simp] theorem bandLength_mixDown (buffer : StreamBuffer) (wanted : Nat) :
    (buffer.mixDown wanted).bandLength = buffer.bandLength := by
  simp only [mixDown]
  split <;> rfl

/-- Splitting leaves the length of the bands. It is done channel by channel, each time for one place
among the bands, so this is an induction over the channels. -/
@[simp] theorem bandLength_splitChannels (buffer : StreamBuffer) (count : Nat) :
    (buffer.splitChannels count).bandLength = buffer.bandLength := by
  refine List.foldlRecOn
    (motive := fun split : StreamBuffer => split.bandLength = buffer.bandLength)
    (List.range count) _ rfl ?_
  intro split known channel _
  rw [← known]
  simp only [splitChannel]
  split <;> rfl

/-- Shaped storage puts as many channels into a frame as are in use, each of its full length. What
the frame held before does not matter, so it comes out well formed also when it was shorter or had
more channels. -/
theorem Shaped.store {buffer : StreamBuffer} {format : Format} (shaped : buffer.Shaped format)
    (frame : Frame) (length : frame.length = format.frameLength) :
    (buffer.store frame).rate = frame.rate ∧ (buffer.store frame).length = frame.length ∧
      (buffer.store frame).channelCount = buffer.channelCount ∧
      (buffer.store frame).WellFormed := by
  refine ⟨rfl, rfl, ?_, ?_⟩
  · have enough : buffer.channelCount ≤ buffer.channels.length := by
      rw [shaped.channels.1]
      exact shaped.used.2
    simp [StreamBuffer.store, Frame.withChannels, enough]
  · refine Frame.wellFormed_withChannels frame _ ?_
    intro row member
    rw [shaped.channels.2 row (List.mem_of_mem_take member), length]

end StreamBuffer

namespace Engine

variable {engine : Engine} {frame : Frame}

/-- A frame matches when its rate, its channel count and its length are the expected ones. The
checks are made in this order, which decides the fault but not whether there is one. -/
theorem frameFault_eq_none_iff {channels : Nat} :
    engine.frameFault channels frame = none ↔
      frame.rate = engine.format.rate.hz ∧ frame.channelCount = channels ∧
        frame.length = engine.format.frameLength := by
  simp only [frameFault]
  by_cases rate : frame.rate = engine.format.rate.hz
  · by_cases count : frame.channelCount = channels
    · by_cases length : frame.length = engine.format.frameLength
      · simp [rate, count, length]
      · simp [rate, count, length]
    · simp [rate, count]
  · simp [rate]

/-- A frame can be recorded when no recording goes on or its sink takes the whole record. What a
sink takes is its own affair, so this is asked of the sink and not computed from a size. -/
def Records (engine : Engine) (event : Frame → Trace.Event) (frame : Frame) : Prop :=
  ∀ sink, engine.recorder.sink = some sink → (sink.writeAll (event frame).bytes).1 = none

/-- A matching frame is recorded exactly when it can be. The two limits of a record, on channels and
on samples, play no part: a frame that matches a format is far below both. -/
theorem recordFrame_ok_iff {event : Frame → Trace.Event} {channels : Nat}
    (matching : engine.frameFault channels frame = none) (few : channels ≤ maxChannels) :
    (recording (Trace.Recorder.recordFrame event frame) engine).result = .ok () ↔
      engine.Records event frame := by
  obtain ⟨-, count, length⟩ := frameFault_eq_none_iff.mp matching
  have fits : Trace.recordFault frame = none := by
    have short : engine.format.frameLength ≤ Trace.maxRecordLength := by
      simp only [Format.frameLength]
      cases engine.format.rate <;> decide
    have narrow : maxChannels ≤ Trace.maxRecordChannels := by decide
    have channelsFit : ¬ Trace.maxRecordChannels < frame.channelCount := by omega
    have lengthFits : ¬ Trace.maxRecordLength < frame.length := by omega
    rw [Trace.recordFault, if_neg channelsFit, if_neg lengthFits]
  simp only [recording, Act.within, Trace.Recorder.recordFrame, Records]
  cases current : engine.recorder.sink with
  | none => simp [Trace.Recorder.isOpen, current, Act.answer]
  | some sink =>
    simp only [Trace.Recorder.isOpen, current, Option.isSome_some, if_true, fits,
      Trace.Recorder.write]
    split
    case h_1 written taken => simp [Act.answer, taken]
    case h_2 cause written failed => simp [failed]

/-- A recording only changes the recorder. Which recorder is left is not said here, since the stages
never look at it. -/
theorem recording_state {Answer : Type} (call : Act Trace.Recorder Answer) (engine : Engine) :
    ∃ recorder, (recording call engine).state = { engine with recorder } :=
  ⟨(call engine.recorder).state, rfl⟩

/-- How a call with a captured frame can end: the frame does not match and nothing changes, it
cannot be recorded and only the recorder changes, or it is recorded and processed. These are all the
ways, and every later fact about captured frames is proved by them. -/
theorem capture_cases (engine : Engine) (frame : Frame) :
    (∃ fault, engine.frameFault engine.format.inputChannels frame = some fault ∧
      (engine.capture frame).1.result = .error fault ∧
      (engine.capture frame).1.state = engine ∧ (engine.capture frame).2 = frame) ∨
    (∃ fault recorder, engine.frameFault engine.format.inputChannels frame = none ∧
      (recording (Trace.Recorder.recordFrame .captured frame) engine).result = .error fault ∧
      (engine.capture frame).1.result = .error fault ∧
      (engine.capture frame).1.state = { engine with recorder } ∧
      (engine.capture frame).2 = frame) ∨
    ∃ recorder, engine.frameFault engine.format.inputChannels frame = none ∧
      (recording (Trace.Recorder.recordFrame .captured frame) engine).result = .ok () ∧
      (engine.capture frame).1.result =
        (process { engine with recorder } frame).1.result ∧
      (engine.capture frame).1.state = (process { engine with recorder } frame).1.state ∧
      (engine.capture frame).2 = (process { engine with recorder } frame).2 := by
  simp only [capture]
  cases mismatch : engine.frameFault engine.format.inputChannels frame with
  | some fault => exact .inl ⟨fault, rfl, rfl, rfl, rfl⟩
  | none =>
    obtain ⟨recorder, state⟩ :=
      recording_state (Trace.Recorder.recordFrame .captured frame) engine
    dsimp only
    cases result : (recording (Trace.Recorder.recordFrame .captured frame) engine).result with
    | error fault => exact .inr (.inl ⟨fault, recorder, rfl, rfl, result, state, rfl⟩)
    | ok answer =>
      exact .inr (.inr ⟨recorder, rfl, rfl, by rw [state], by rw [state], by rw [state]⟩)

/-- How a call with a frame to the loudspeaker can end. The same three ways, with observing in place
of processing and no frame given back. -/
theorem render_cases (engine : Engine) (frame : Frame) :
    (∃ fault, engine.frameFault engine.format.reverseChannels frame = some fault ∧
      (render frame engine).result = .error fault ∧ (render frame engine).state = engine) ∨
    (∃ fault recorder, engine.frameFault engine.format.reverseChannels frame = none ∧
      (recording (Trace.Recorder.recordFrame .rendered frame) engine).result = .error fault ∧
      (render frame engine).result = .error fault ∧
      (render frame engine).state = { engine with recorder }) ∨
    ∃ recorder, engine.frameFault engine.format.reverseChannels frame = none ∧
      (render frame engine).result = (observe { engine with recorder } frame).result ∧
      (render frame engine).state = (observe { engine with recorder } frame).state := by
  simp only [render]
  cases mismatch : engine.frameFault engine.format.reverseChannels frame with
  | some fault => exact .inl ⟨fault, rfl, rfl, rfl⟩
  | none =>
    obtain ⟨recorder, state⟩ :=
      recording_state (Trace.Recorder.recordFrame .rendered frame) engine
    dsimp only
    cases result : (recording (Trace.Recorder.recordFrame .rendered frame) engine).result with
    | error fault => exact .inr (.inl ⟨fault, recorder, rfl, rfl, result, state⟩)
    | ok answer => exact .inr (.inr ⟨recorder, rfl, by rw [state], by rw [state]⟩)

/-- The captured stream with a frame loaded has as many channels in use as will leave, and bands of
the length that the storage has. When more channels arrive than leave these are mixed down first, so
the stages never see the number that arrives. -/
theorem loadCaptured_size (engine : Engine) (supported : engine.format.Supported)
    (matching : engine.frameFault engine.format.inputChannels frame = none) :
    (engine.loadCaptured frame).channelCount = engine.format.outputChannels ∧
      (engine.loadCaptured frame).bandLength = engine.capturing.bandLength := by
  obtain ⟨-, count, -⟩ := frameFault_eq_none_iff.mp matching
  obtain ⟨-, fewer, -⟩ := supported
  simp only [loadCaptured]
  by_cases mixes : engine.format.mixesDown = true
  · rw [if_pos mixes, StreamBuffer.channelCount_splitChannels, StreamBuffer.channelCount_mixDown,
      StreamBuffer.channelCount_load, StreamBuffer.bandLength_splitChannels,
      StreamBuffer.bandLength_mixDown, count]
    exact ⟨Nat.min_eq_right fewer, rfl⟩
  · have same : ¬ engine.format.outputChannels < engine.format.inputChannels := by
      simpa [Format.mixesDown] using mixes
    rw [if_neg mixes, StreamBuffer.channelCount_splitChannels, StreamBuffer.channelCount_load,
      StreamBuffer.bandLength_splitChannels, count]
    exact ⟨by omega, rfl⟩

/-- The captured stream with a matching frame loaded keeps the shape of the format. Loading, mixing
down and splitting each keep it; matching is needed for the length of the frame and for the number
of channels, which the storage must have room for. -/
theorem shaped_loadCaptured (engine : Engine) (supported : engine.format.Supported)
    (shaped : engine.capturing.Shaped engine.format) (wellFormed : frame.WellFormed)
    (matching : engine.frameFault engine.format.inputChannels frame = none) :
    (engine.loadCaptured frame).Shaped engine.format := by
  obtain ⟨-, count, length⟩ := frameFault_eq_none_iff.mp matching
  obtain ⟨leaves, fewer, arrives, -⟩ := supported
  have loaded := shaped.load frame wellFormed length (by omega)
  have mixed := loaded.mixDown engine.format.outputChannels (by omega)
  simp only [loadCaptured]
  split
  · exact mixed.splitChannels engine.format.inputChannels arrives
  · exact loaded.splitChannels engine.format.inputChannels arrives

/-- The stream to the loudspeaker with a matching frame loaded keeps the shape of the format.
Nothing is mixed down on this side. -/
theorem shaped_loadRendered (engine : Engine) (supported : engine.format.Supported)
    (shaped : engine.rendering.Shaped engine.format) (wellFormed : frame.WellFormed)
    (matching : engine.frameFault engine.format.reverseChannels frame = none) :
    ((engine.rendering.load frame).splitChannels frame.channelCount).Shaped engine.format := by
  obtain ⟨-, count, length⟩ := frameFault_eq_none_iff.mp matching
  obtain ⟨-, -, -, leaves, few⟩ := supported
  have loaded := shaped.load frame wellFormed length (by omega)
  exact loaded.splitChannels frame.channelCount (by omega)

/-- Processing a frame ends as the stages do: with the first refusal, if there is one. The refusals
are read off the engine as it was before the frame, since no stage changes what another one refuses
for. -/
theorem process_result (engine : Engine) (frame : Frame) :
    (engine.process frame).1.result =
      match CaptureStage.order.findSome? fun stage =>
        (stage.refusal engine.delay engine.rack (engine.loadCaptured frame).bandLength
          (engine.loadCaptured frame).channelCount).map (stage, ·) with
      | none => .ok ()
      | some (_, fault) => .error fault := by
  rw [← CaptureStage.runEach_fault engine.delay engine.rack (engine.loadCaptured frame)
    CaptureStage.order (by decide)]
  simp only [process]
  split
  case h_1 outcome =>
    rw [outcome]
  case h_2 outcome =>
    rw [outcome]

/-- Processing a frame succeeds when no stage refuses. Every stage is in the order, so none is left
out. -/
theorem process_ok_iff (engine : Engine) (frame : Frame) :
    (engine.process frame).1.result = .ok () ↔
      ∀ stage : CaptureStage, stage.refusal engine.delay engine.rack
        (engine.loadCaptured frame).bandLength (engine.loadCaptured frame).channelCount = none := by
  rw [process_result]
  constructor
  · intro done stage
    split at done
    case h_1 silent =>
      have nothing := List.findSome?_eq_none_iff.mp silent stage (CaptureStage.mem_order stage)
      simpa using nothing
    case h_2 => cases done
  · intro ready
    have silent : (CaptureStage.order.findSome? fun stage : CaptureStage =>
        (stage.refusal engine.delay engine.rack (engine.loadCaptured frame).bandLength
          (engine.loadCaptured frame).channelCount).map (stage, ·)) = none := by
      refine List.findSome?_eq_none_iff.mpr ?_
      intro stage _
      rw [ready stage]
      rfl
    rw [silent]

/-- Processing a frame fails with the refusal of some stage. That it is the first to refuse is
dropped here: those who ask for the reason only want to know which faults are possible. -/
theorem exists_refusal_of_process_error {engine : Engine} {frame : Frame} {fault : Fault}
    (failed : (engine.process frame).1.result = .error fault) :
    ∃ stage : CaptureStage, stage.refusal engine.delay engine.rack
      (engine.loadCaptured frame).bandLength (engine.loadCaptured frame).channelCount =
        some fault := by
  rw [process_result] at failed
  split at failed
  case h_1 => cases failed
  case h_2 stage cause found =>
    cases failed
    obtain ⟨source, -, reason⟩ := List.exists_of_findSome?_eq_some found
    cases refusal : source.refusal engine.delay engine.rack
        (engine.loadCaptured frame).bandLength (engine.loadCaptured frame).channelCount with
    | none => simp [refusal] at reason
    | some cause =>
      simp only [refusal, Option.map_some, Option.some.injEq, Prod.mk.injEq] at reason
      exact ⟨source, by rw [refusal, reason.2]⟩

/-- Processing a frame changes only the rack, which stays switched and made as it was, and the
storage of the captured stream, which keeps its shape. Both hold when a stage refuses as well: the
stages before it have done their work, and that is left in place. -/
theorem process_state (engine : Engine) (frame : Frame) :
    ∃ rack capturing, (engine.process frame).1.state = { engine with rack, capturing } ∧
      engine.rack.Alike rack ∧
      ∀ format, (engine.loadCaptured frame).Shaped format → capturing.Shaped format := by
  have alike := CaptureStage.runEach_alike engine.delay engine.rack (engine.loadCaptured frame)
    CaptureStage.order
  simp only [process]
  split
  case h_1 outcome =>
    rw [outcome] at alike
    exact ⟨_, _, rfl, alike.1, alike.2.shaped⟩
  case h_2 outcome =>
    rw [outcome] at alike
    exact ⟨_, _, rfl, alike.1, fun format shaped =>
      (alike.2.shaped format shaped).mergeChannels engine.format.outputChannels⟩

/-- A frame for which no stage refuses comes back at its rate and with its length, with the channels
that leave and exactly the samples that these announce. The count follows the storage from loading
through the stages, which keep it, to the merging of the bands. -/
theorem process_frame (engine : Engine) (supported : engine.format.Supported)
    (shaped : engine.capturing.Shaped engine.format) (wellFormed : frame.WellFormed)
    (matching : engine.frameFault engine.format.inputChannels frame = none)
    (done : (engine.process frame).1.result = .ok ()) :
    (engine.process frame).2.rate = frame.rate ∧
      (engine.process frame).2.length = frame.length ∧
      (engine.process frame).2.channelCount = engine.format.outputChannels ∧
      (engine.process frame).2.WellFormed := by
  have alike := (CaptureStage.runEach_alike engine.delay engine.rack (engine.loadCaptured frame)
    CaptureStage.order).2
  have loaded := shaped_loadCaptured engine supported shaped wellFormed matching
  have count := (loadCaptured_size engine supported matching).1
  have length := (frameFault_eq_none_iff.mp matching).2.2
  simp only [process] at done ⊢
  split at done
  case h_1 => cases done
  case h_2 outcome =>
    rw [outcome] at alike
    dsimp only
    have merged := (alike.shaped engine.format loaded).mergeChannels engine.format.outputChannels
    have inWork : (engine.frameInWork frame).rate = frame.rate ∧
        (engine.frameInWork frame).length = frame.length := by
      simp only [frameInWork]
      split <;> exact ⟨rfl, rfl⟩
    have stored := merged.store (engine.frameInWork frame) (inWork.2.trans length)
    rw [StreamBuffer.channelCount_mergeChannels, alike.channelCount, count, inWork.1,
      inWork.2] at stored
    exact stored

/-- Observing a frame ends as the stages do: with the first refusal, if there is one. The stages on
this side refuse for the length of the bands alone, which loading a frame leaves as it is. -/
theorem observe_result (engine : Engine) (frame : Frame) :
    (observe engine frame).result =
      match RenderStage.order.findSome? fun stage =>
        (stage.refusal engine.rack engine.rendering.bandLength).map (stage, ·) with
      | none => .ok ()
      | some (_, fault) => .error fault := by
  have loaded : ((engine.rendering.load frame).splitChannels frame.channelCount).bandLength =
      engine.rendering.bandLength := by
    rw [StreamBuffer.bandLength_splitChannels]
    rfl
  rw [← loaded, ← RenderStage.runEach_fault engine.rack _ RenderStage.order (by decide)]
  simp only [observe]
  split
  case h_1 outcome => rw [outcome]
  case h_2 outcome => rw [outcome]

/-- Observing a frame succeeds when no stage refuses. That one direction is all that is used. -/
theorem observe_ok_of_ready {engine : Engine} {frame : Frame}
    (ready : ∀ stage : RenderStage,
      stage.refusal engine.rack engine.rendering.bandLength = none) :
    (observe engine frame).result = .ok () := by
  have silent : (RenderStage.order.findSome? fun stage : RenderStage =>
      (stage.refusal engine.rack engine.rendering.bandLength).map (stage, ·)) = none := by
    refine List.findSome?_eq_none_iff.mpr ?_
    intro stage _
    rw [ready stage]
    rfl
  rw [observe_result, silent]

/-- Observing a frame changes only the rack, which stays switched and made as it was, the storage of
the stream to the loudspeaker and the report of the delay. The report is forgotten when all stages
are done and stands when one refuses; the milliseconds are kept either way. -/
theorem observe_state (engine : Engine) (frame : Frame) :
    ∃ rack delay, (observe engine frame).state =
        { engine with
          rack
          delay
          rendering := (engine.rendering.load frame).splitChannels frame.channelCount } ∧
      engine.rack.Alike rack ∧ delay.ms = engine.delay.ms := by
  have alike := RenderStage.runEach_alike engine.rack
    ((engine.rendering.load frame).splitChannels frame.channelCount) RenderStage.order
  simp only [observe]
  split
  case h_1 outcome =>
    rw [outcome] at alike
    exact ⟨_, engine.delay, rfl, alike, rfl⟩
  case h_2 outcome =>
    rw [outcome] at alike
    exact ⟨_, engine.delay.forget, rfl, alike, rfl⟩

/-- A call that does not start the engine anew switches an effect, or keeps the format and leaves
the rack switched and made as it was.

Proof: only three kinds of call have something to show: a setting is taken by one effect, which
`adjust_alike` says stays as it was switched and made, and the two kinds of frame go through
`capture_cases` and `render_cases`, where the stages run in the last case alone. A call that reads a
level resets the meter and nothing besides, and the others do not reach the rack. -/
theorem perform_of_no_target {call : Call} (untargeted : call.target? engine.format = none) :
    (∃ kind enabled, call = .enable kind enabled) ∨
      (engine.perform call).state.format = engine.format ∧
        engine.rack.Alike (engine.perform call).state.rack := by
  have same := Rack.Alike.refl engine.rack
  cases call with
  | restart => cases untargeted
  | setRate hz => cases untargeted
  | setChannels input output => cases untargeted
  | setReverseChannels channels => cases untargeted
  | enable kind enabled => exact .inl ⟨kind, enabled, rfl⟩
  | adjust setting =>
    refine .inr ?_
    simp only [perform, adjust]
    dsimp only [replying]
    cases taken : engine.rack.adjust setting with
    | ok rack => exact ⟨rfl, Rack.adjust_alike taken⟩
    | error fault => exact ⟨rfl, same⟩
  | reportDelay ms =>
    refine .inr ?_
    simp only [perform, reportDelay]
    dsimp only [replying]
    split <;> exact ⟨rfl, same⟩
  | changeId id => exact .inr ⟨rfl, same⟩
  | capture frame =>
    refine .inr ?_
    dsimp only [perform, replying]
    rcases capture_cases engine frame with ⟨_, _, _, state, _⟩ | ⟨_, _, _, _, _, state, _⟩ |
      ⟨recorder, _, _, _, state, _⟩
    · rw [state]
      exact ⟨rfl, same⟩
    · rw [state]
      exact ⟨rfl, same⟩
    · obtain ⟨rack, capturing, after, alike, -⟩ := process_state { engine with recorder } frame
      rw [state, after]
      exact ⟨rfl, alike⟩
  | render frame =>
    refine .inr ?_
    dsimp only [perform, replying]
    rcases render_cases engine frame with ⟨_, _, _, state⟩ | ⟨_, _, _, _, _, state⟩ |
      ⟨recorder, _, _, state⟩
    · rw [state]
      exact ⟨rfl, same⟩
    · rw [state]
      exact ⟨rfl, same⟩
    · obtain ⟨rack, delay, after, alike, -⟩ := observe_state { engine with recorder } frame
      rw [state, after]
      exact ⟨rfl, alike⟩
  | takeCapturedLevel =>
    have enabled := LevelMeter.enabled_takeCaptured engine.rack.levelMeter
    exact .inr ⟨rfl, engine.rack.alike_levelMeter enabled⟩
  | takeRenderedLevel =>
    have enabled := LevelMeter.enabled_takeRendered engine.rack.levelMeter
    exact .inr ⟨rfl, engine.rack.alike_levelMeter enabled⟩
  | record sink => exact .inr ⟨rfl, same⟩
  | recordFile path opened => exact .inr ⟨rfl, same⟩
  | stopRecording => exact .inr ⟨rfl, same⟩

end Engine

end VoiceEngine
