import VoiceEngine.Proofs.Frames

/-!
# Formats and storage of reachable engines

Every reachable engine has a supported format, and the storage of both streams has the shape of
that format. A change of format that the effects refuse is no exception: the storage is made anew
before the effects are asked. Whether such an engine takes a captured frame is therefore decided by
its format, its rack and the reported delay, and not by what the frame holds.
-/

namespace VoiceEngine.Engine

/-- The format is supported, and the storage of both streams has its shape. This part of the
invariant needs nothing of the effects but that their stages keep the shape of the audio. -/
structure Stored (engine : Engine) : Prop where
  supported : engine.format.Supported
  capturing : engine.capturing.Shaped engine.format
  rendering : engine.rendering.Shaped engine.format

/-- An engine that was never started has new storage. -/
theorem stored_blank (id : Int) {format : Format} (supported : format.Supported) :
    (blank id format).Stored :=
  ⟨supported, StreamBuffer.shaped_ofFormat format, StreamBuffer.shaped_ofFormat format⟩

/-- Starting an engine makes its storage anew, whether or not the effects accept the format, so it
fits the format even when starting fails. -/
theorem stored_restart (engine : Engine) (supported : engine.format.Supported) :
    (restart engine).state.Stored := by
  rw [restart_state]
  exact ⟨supported, StreamBuffer.shaped_ofFormat engine.format,
    StreamBuffer.shaped_ofFormat engine.format⟩

/-- Taking in a captured frame keeps the shape of the storage. A frame that does not match is never
loaded. -/
theorem Stored.capture {engine : Engine} (stored : engine.Stored) {frame : Frame}
    (wellFormed : frame.WellFormed) : (engine.capture frame).1.state.Stored := by
  rcases capture_cases engine frame with ⟨_, _, _, state, _⟩ | ⟨_, _, _, _, _, state, _⟩ |
    ⟨recorder, matching, _, _, state, _⟩
  · rw [state]
    exact stored
  · rw [state]
    exact ⟨stored.supported, stored.capturing, stored.rendering⟩
  · have loaded := shaped_loadCaptured { engine with recorder } stored.supported
      stored.capturing wellFormed matching
    obtain ⟨rack, capturing, after, -, shaped⟩ := process_state { engine with recorder } frame
    rw [state, after]
    exact ⟨stored.supported, shaped engine.format loaded, stored.rendering⟩

/-- Taking in a frame to the loudspeaker keeps the shape of the storage, by the same cases; here the
stages do not write to it. -/
theorem Stored.render {engine : Engine} (stored : engine.Stored) {frame : Frame}
    (wellFormed : frame.WellFormed) : (Engine.render frame engine).state.Stored := by
  rcases render_cases engine frame with ⟨_, _, _, state⟩ | ⟨_, _, _, _, _, state⟩ |
    ⟨recorder, matching, _, state⟩
  · rw [state]
    exact stored
  · rw [state]
    exact ⟨stored.supported, stored.capturing, stored.rendering⟩
  · have loaded := shaped_loadRendered { engine with recorder } stored.supported
      stored.rendering wellFormed matching
    obtain ⟨rack, delay, after, -, -⟩ := observe_state { engine with recorder } frame
    rw [state, after]
    exact ⟨stored.supported, stored.capturing, loaded⟩

/-- Every call keeps the format supported and the storage in its shape. A call with a target starts
the engine anew or is refused. Of the others only the two kinds of frame write to the storage, and
whatever else a call changes, the shape does not speak of it. -/
theorem Stored.perform {engine : Engine} (stored : engine.Stored) {call : Call}
    (wellFormed : call.WellFormed) : (engine.perform call).state.Stored := by
  cases target : call.target? engine.format with
  | some change =>
    cases change with
    | error cause =>
      rw [(perform_of_target_error target).2]
      exact stored
    | ok format =>
      rw [perform_of_target target]
      exact stored_restart { engine with format }
        (supported_target stored.supported target)
  | none =>
    have kept (id delay rack recorder) :
        Stored { engine with id, delay, rack, recorder } :=
      ⟨stored.supported, stored.capturing, stored.rendering⟩
    cases call with
    | restart => cases target
    | setRate hz => cases target
    | setChannels input output => cases target
    | setReverseChannels channels => cases target
    | enable kind enabled =>
      dsimp only [Engine.perform, replying]
      rcases enable_cases kind enabled engine with ⟨_, _, state⟩ | ⟨_, _, _, _, _, _, state⟩ |
        ⟨_, _, state⟩
      · rw [state]
        exact stored
      · rw [state]
        exact kept _ _ _ _
      · rw [state]
        exact kept _ _ _ _
    | adjust setting =>
      simp only [Engine.perform, adjust]
      dsimp only [replying]
      cases engine.rack.adjust setting with
      | ok rack => exact kept _ _ _ _
      | error fault => exact stored
    | reportDelay ms =>
      simp only [Engine.perform, reportDelay]
      dsimp only [replying]
      split <;> exact kept _ _ _ _
    | capture frame => exact stored.capture wellFormed
    | render frame => exact stored.render wellFormed
    | _ => exact kept _ _ _ _

/-- Every reachable engine is stored as its format asks. -/
theorem Reachable.stored {engine : Engine} (reached : engine.Reachable) : engine.Stored :=
  reachable_induction (fun id _ supported => stored_blank id supported)
    (fun _ _ wellFormed stored => stored.perform wellFormed) reached

section Capture

variable {engine : Engine} {frame : Frame}

/-- The stages see a loaded frame in the sizes of the format. What a stage refuses for can therefore
be read off the format, before a frame is at hand. -/
theorem Stored.refusal_loaded (stored : engine.Stored)
    (matching : engine.frameFault engine.format.inputChannels frame = none)
    (recorder : Trace.Recorder) (stage : CaptureStage) :
    stage.refusal engine.delay engine.rack (loadCaptured { engine with recorder } frame).bandLength
        (loadCaptured { engine with recorder } frame).channelCount =
      stage.refusal engine.delay engine.rack engine.format.bandLength
        engine.format.outputChannels := by
  obtain ⟨count, bandLength⟩ :=
    loadCaptured_size { engine with recorder } stored.supported matching
  rw [count, bandLength]
  dsimp only
  rw [stored.capturing.bandLength]

/-- A captured frame is taken exactly when it matches, can be recorded and no stage refuses. The
three are checked in this order, and each needs the ones before it. -/
theorem Stored.capture_ok_iff (stored : engine.Stored) :
    (engine.capture frame).1.result = .ok () ↔
      engine.frameFault engine.format.inputChannels frame = none ∧
        engine.Records .captured frame ∧
        ∀ stage : CaptureStage, stage.refusal engine.delay engine.rack engine.format.bandLength
          engine.format.outputChannels = none := by
  have few := stored.supported.2.2.1
  rcases capture_cases engine frame with ⟨fault, mismatch, result, _⟩ |
    ⟨fault, _, matching, failed, result, _⟩ | ⟨recorder, matching, recorded, result, _⟩
  · simp [result, mismatch]
  · have lost : ¬ engine.Records .captured frame := by
      rw [← recordFrame_ok_iff matching few, failed]
      simp
    simp [result, lost]
  · have records := (recordFrame_ok_iff matching few).mp recorded
    rw [result, process_ok_iff]
    constructor
    · intro ready
      refine ⟨matching, records, ?_⟩
      intro stage
      rw [← stored.refusal_loaded matching recorder]
      exact ready stage
    · rintro ⟨-, -, ready⟩ stage
      exact (stored.refusal_loaded matching recorder stage).trans (ready stage)

/-- A matching frame that can be recorded and is not taken is answered with the refusal of some
stage, in the sizes of the format. -/
theorem Stored.exists_refusal (stored : engine.Stored)
    (matching : engine.frameFault engine.format.inputChannels frame = none)
    (records : engine.Records .captured frame) {fault : Fault}
    (refused : (engine.capture frame).1.result = .error fault) :
    ∃ stage : CaptureStage, stage.refusal engine.delay engine.rack engine.format.bandLength
      engine.format.outputChannels = some fault := by
  have taken := (recordFrame_ok_iff matching stored.supported.2.2.1).mpr records
  rcases capture_cases engine frame with ⟨_, mismatch, _⟩ | ⟨_, _, _, failed, _⟩ |
    ⟨recorder, _, _, result, _⟩
  · rw [matching] at mismatch
    cases mismatch
  · rw [taken] at failed
    cases failed
  · rw [result] at refused
    obtain ⟨stage, reason⟩ := exists_refusal_of_process_error refused
    exact ⟨stage, (stored.refusal_loaded matching recorder stage).symm.trans reason⟩

/-- A frame that was taken comes back at its rate and with its length, with the channels that
leave and exactly the samples that these announce. -/
theorem Stored.capture_frame (stored : engine.Stored) (wellFormed : frame.WellFormed)
    (taken : (engine.capture frame).1.result = .ok ()) :
    (engine.capture frame).2.rate = frame.rate ∧
      (engine.capture frame).2.length = frame.length ∧
      (engine.capture frame).2.channelCount = engine.format.outputChannels ∧
      (engine.capture frame).2.WellFormed := by
  rcases capture_cases engine frame with ⟨_, _, result, _⟩ | ⟨_, _, _, _, result, _⟩ |
    ⟨recorder, matching, _, result, _, final⟩
  · rw [result] at taken
    cases taken
  · rw [result] at taken
    cases taken
  · rw [result] at taken
    rw [final]
    exact process_frame { engine with recorder } stored.supported stored.capturing
      wellFormed matching taken

end Capture

end VoiceEngine.Engine
