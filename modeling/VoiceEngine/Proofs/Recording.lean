import VoiceEngine.Proofs.Parsing
import VoiceEngine.Proofs.Readiness
import VoiceEngine.Proofs.Receipts
import VoiceEngine.Proofs.Sinks

/-!
# What a recording holds

A recording that began with an answer goes on until a call ends it. As long as the writes to its
sink do not fail, every frame that matches the format of its time adds one record, made of the frame
as it was handed over, whatever the effects do with it afterwards, and no other call adds anything.
So the trace that the sink holds at the end reads as the start and these frames in their order.
-/

namespace VoiceEngine

/-- What the first part of a sequence let go of comes first in what the sequence lets go of. -/
theorem Act.released_prefix_andThen {State First Answer : Type} (first : Act State First)
    (second : First → Act State Answer) (state : State) :
    (first state).released <+: (first.andThen second state).released := by
  cases result : (first state).result with
  | error fault => simp only [andThen_of_error result, List.prefix_rfl]
  | ok value => simp only [andThen_of_ok result, List.prefix_append]

namespace Trace

/-- No write to the sink fails: each stores at least one of the bytes that it is offered. -/
def Sink.Lossless (sink : Sink) : Prop :=
  ∀ attempts stored, ∃ room, (sink.reception attempts stored).uptake = .stores (room + 1)

/-- A sink whose writes do not fail takes everything. -/
theorem Sink.Lossless.writeAll {sink : Sink} (lossless : sink.Lossless) (offered : Bytes) :
    ∃ written, sink.writeAll offered = (none, written) ∧ written.Lossless ∧
      written.bytes = sink.bytes ++ offered := by
  have complete : (sink.writeAll offered).1 = none := by
    fun_induction Sink.writeAll sink offered with
    | case1 sink => rfl
    | case2 sink byte others reception attempts text given =>
      obtain ⟨room, stores⟩ := lossless sink.attempts sink.stored.size
      cases stores.symm.trans given
    | case3 sink byte others reception attempts given =>
      obtain ⟨room, stores⟩ := lossless sink.attempts sink.stored.size
      cases stores.symm.trans given
    | case4 sink byte others reception attempts room given inductionHypothesis =>
      exact inductionHypothesis lossless
  obtain ⟨piece, -, extended, all⟩ := sink.extended_writeAll offered
  obtain rfl : piece = offered := all.mp complete
  refine ⟨(sink.writeAll piece).2, Prod.ext complete rfl, ?_, extended.bytes⟩
  rw [Sink.Lossless, extended.reception]
  exact lossless

/-- A frame that a record can hold is not refused by the recorder. -/
theorem FitsRecord.recordFault {frame : Frame} (fits : FitsRecord frame) :
    recordFault frame = none := by
  rw [Trace.recordFault, if_neg (Nat.not_lt.mpr fits.fewChannels),
    if_neg (Nat.not_lt.mpr fits.short)]

namespace Recorder

/-- A recorder took down certain events: its sink, whose writes do not fail, holds their trace
behind what it held before. -/
def TookDown (recorder : Recorder) (before : Bytes) (events : List Event) : Prop :=
  ∃ sink, recorder.sink = some sink ∧ sink.Lossless ∧
    sink.bytes = before ++ bytesOfEvents events ∧ ∀ event ∈ events, event.Recordable

variable {recorder : Recorder} {before : Bytes} {events : List Event}

/-- The trace that a recorder took down reads as its events. -/
theorem TookDown.reads (took : recorder.TookDown before events) :
    ∃ written trace, recorder.sink = some written ∧ written.bytes = before ++ trace ∧
      Reads trace events none := by
  obtain ⟨written, current, -, bytes, recordable⟩ := took
  have divides : Divides (events.flatMap Event.bytes) events [] none :=
    ⟨recordable, (List.append_nil _).symm, .clean⟩
  exact ⟨written, bytesOfEvents events, current, bytes, divides.reads⟩

/-- A record that is written is taken down behind the others. -/
theorem TookDown.write (took : recorder.TookDown before events) {event : Event}
    (recordable : event.Recordable) :
    (Recorder.write event.bytes recorder).state.TookDown before (events ++ [event]) := by
  obtain ⟨sink, current, lossless, bytes, others⟩ := took
  obtain ⟨written, stored, stillLossless, all⟩ := lossless.writeAll event.bytes
  refine ⟨written, ?_, stillLossless, ?_, ?_⟩
  · rw [(write_spec current event.bytes).1, stored]
  · rw [all, bytes]
    simp [bytesOfEvents]
  · rw [List.forall_mem_append]
    exact ⟨others, List.forall_mem_singleton.mpr recordable⟩

/-- How a recording begins on a sink whose writes do not fail: with an answer exactly when the
recording at hand can be flushed, and then with the trace of the start. -/
theorem start_lossless {sink : Sink} (lossless : sink.Lossless) (rate : UInt32)
    (recorder : Recorder) :
    (recorder.Flushes →
      (start sink rate recorder).state.TookDown sink.bytes [.started rate.toInt32]) ∧
      (start sink rate recorder).result = if recorder.Flushes then .ok () else .error .file := by
  obtain ⟨headed, header, headedLossless, line⟩ := lossless.writeAll magic
  obtain ⟨written, start, stillLossless, all⟩ :=
    headedLossless.writeAll (Event.started rate.toInt32).bytes
  obtain ⟨state, result⟩ := start_spec sink rate recorder
  rw [header] at state result
  dsimp only at state result
  rw [start] at state result
  simp only [and_true] at state result
  refine ⟨fun flushes => ?_, result⟩
  rw [state, if_pos flushes]
  have recordable : ∀ event ∈ [Event.started rate.toInt32], event.Recordable :=
    List.forall_mem_singleton.mpr trivial
  exact ⟨written, rfl, stillLossless, by rw [all, line]; simp [bytesOfEvents], recordable⟩

/-- A recording on a sink whose writes do not fail begins with an answer when the one at hand, if
there is one, ends with an answer. -/
theorem start_result {sink : Sink} (lossless : sink.Lossless) (rate : UInt32)
    (recorder : Recorder) : (start sink rate recorder).result = (stop recorder).result :=
  (start_lossless lossless rate recorder).2.trans (stop_spec recorder).2.symm

/-- A recording that began with an answer took down the start. -/
theorem tookDown_start {sink : Sink} (lossless : sink.Lossless) (rate : UInt32)
    (answered : (start sink rate recorder).result = .ok ()) :
    (start sink rate recorder).state.TookDown sink.bytes [.started rate.toInt32] := by
  obtain ⟨tookDown, result⟩ := start_lossless lossless rate recorder
  by_cases flushes : recorder.Flushes
  · exact tookDown flushes
  · rw [result, if_neg flushes] at answered
    cases answered

/-- Ending a recording lets go of its sink, whether or not it could be flushed. -/
theorem released_stop {sink : Sink} (current : recorder.sink = some sink) :
    (stop recorder).released = [sink] := by
  simp only [stop, current]
  cases sink.flushFailure <;> rfl

end Recorder

end Trace

instance (frame : Frame) (format : Format) (channels : Nat) :
    Decidable (frame.Matches format channels) := by
  unfold Frame.Matches
  infer_instance

/-- A matching frame is one that a record can hold. -/
theorem Frame.Matches.fitsRecord {frame : Frame} {format : Format} {channels : Nat}
    (matching : frame.Matches format channels) (wellFormed : frame.WellFormed)
    (hasChannels : 1 ≤ channels) (few : channels ≤ maxChannels) : Trace.FitsRecord frame := by
  obtain ⟨-, rfl, length⟩ := matching
  refine ⟨wellFormed, hasChannels, Nat.le_trans few (by decide), ?_⟩
  rw [length, Format.frameLength]
  cases format.rate <;> decide

namespace Call

/-- A call that ends the recording at hand: it begins another one, or none. -/
def EndsRecording : Call → Prop
  | record _ => True
  | recordFile _ _ => True
  | stopRecording => True
  | _ => False

/-- What a call adds to a recording, in an engine of a certain format: the frame that it hands over,
as it is, if that matches the format. -/
def event? (format : Format) : Call → Option Trace.Event
  | capture frame =>
    if frame.Matches format format.inputChannels then some (.captured frame) else none
  | render frame =>
    if frame.Matches format format.reverseChannels then some (.rendered frame) else none
  | _ => none

end Call

namespace Engine

/-- What a run adds to a recording: what its calls add, each in the engine's format of its time. -/
def eventsOf (engine : Engine) : List Call → List Trace.Event
  | [] => []
  | call :: calls =>
    (call.event? engine.format).toList ++ eventsOf (engine.perform call).state calls

variable {engine : Engine} {call : Call}

/-- Taking in a captured frame uses the recorder for a matching frame only, and in the end leaves it
as the record of the frame did. -/
theorem recorder_capture (engine : Engine) (frame : Frame) :
    (engine.capture frame).1.state.recorder =
      if frame.Matches engine.format engine.format.inputChannels then
        (Trace.Recorder.recordFrame .captured frame engine.recorder).state
      else engine.recorder := by
  simp only [capture]
  cases mismatch : engine.frameFault engine.format.inputChannels frame with
  | some fault =>
    rw [if_neg]
    intro matching
    rw [frameFault_eq_none_iff.mpr matching] at mismatch
    cases mismatch
  | none =>
    have matching : frame.Matches engine.format engine.format.inputChannels :=
      frameFault_eq_none_iff.mp mismatch
    rw [if_pos matching]
    dsimp only
    split
    case h_1 => rfl
    case h_2 =>
      obtain ⟨rack, capturing, state, -⟩ :=
        process_state (recording (Trace.Recorder.recordFrame .captured frame) engine).state frame
      rw [state]
      rfl

/-- Taking in a frame to the loudspeaker uses the recorder in the same way. -/
theorem recorder_render (engine : Engine) (frame : Frame) :
    (render frame engine).state.recorder =
      if frame.Matches engine.format engine.format.reverseChannels then
        (Trace.Recorder.recordFrame .rendered frame engine.recorder).state
      else engine.recorder := by
  simp only [render]
  cases mismatch : engine.frameFault engine.format.reverseChannels frame with
  | some fault =>
    rw [if_neg]
    intro matching
    rw [frameFault_eq_none_iff.mpr matching] at mismatch
    cases mismatch
  | none =>
    have matching : frame.Matches engine.format engine.format.reverseChannels :=
      frameFault_eq_none_iff.mp mismatch
    rw [if_pos matching]
    dsimp only
    split
    case h_1 => rfl
    case h_2 =>
      obtain ⟨rack, delay, state, -⟩ :=
        observe_state (recording (Trace.Recorder.recordFrame .rendered frame) engine).state frame
      rw [state]
      rfl

/-- Switching an effect leaves the recorder alone. -/
theorem recorder_enable (kind : EffectKind) (enabled : Bool) (engine : Engine) :
    (enable kind enabled engine).state.recorder = engine.recorder := by
  rcases enable_cases kind enabled engine with ⟨_, _, state⟩ | ⟨_, _, _, _, _, _, state⟩ |
    ⟨_, _, state⟩ <;> rw [state]

/-- What a call adds to a recording can be recorded. -/
theorem recordable_of_event (stored : engine.Stored) (wellFormed : call.WellFormed)
    {event : Trace.Event} (adds : call.event? engine.format = some event) : event.Recordable := by
  obtain ⟨leaves, fewer, arrives, reverse, few⟩ := stored.supported
  cases call with
  | capture frame =>
    obtain ⟨matching, same⟩ := Option.ite_none_right_eq_some.mp adds
    cases same
    exact matching.fitsRecord wellFormed (Nat.le_trans leaves fewer) arrives
  | render frame =>
    obtain ⟨matching, same⟩ := Option.ite_none_right_eq_some.mp adds
    cases same
    exact matching.fitsRecord wellFormed reverse few
  | _ => cases adds

/-- A call that hands over no frame and does not end the recording leaves the recorder alone. -/
theorem recorder_of_frameless (frameless : call.frame? = none) (going : ¬ call.EndsRecording) :
    (engine.perform call).state.recorder = engine.recorder := by
  cases target : call.target? engine.format with
  | some change =>
    cases change with
    | error cause => rw [(perform_of_target_error target).2]
    | ok format =>
      rw [perform_of_target target]
      dsimp only [replying]
      rw [restart_state]
  | none =>
    cases call with
    | restart => cases target
    | setRate hz => cases target
    | setChannels input output => cases target
    | setReverseChannels channels => cases target
    | capture frame => cases frameless
    | render frame => cases frameless
    | record sink => exact absurd trivial going
    | recordFile path opened => exact absurd trivial going
    | stopRecording => exact absurd trivial going
    | enable kind enabled => exact recorder_enable kind enabled engine
    | adjust setting =>
      simp only [perform, adjust, replying]
      cases engine.rack.adjust setting <;> rfl
    | reportDelay ms =>
      simp only [perform, reportDelay, replying]
      split <;> rfl
    | _ => rfl

/-- A call that does not end the recording writes what it is said to add, and otherwise leaves the
recorder alone. -/
theorem recorder_perform (stored : engine.Stored) (wellFormed : call.WellFormed)
    (going : ¬ call.EndsRecording) :
    (engine.perform call).state.recorder =
      match call.event? engine.format with
      | some event => (Trace.Recorder.write event.bytes engine.recorder).state
      | none => engine.recorder := by
  cases call with
  | capture frame =>
    have recorder := recorder_capture engine frame
    by_cases matching : frame.Matches engine.format engine.format.inputChannels
    · have adds : (Call.capture frame).event? engine.format = some (.captured frame) :=
        if_pos matching
      have fits : Trace.FitsRecord frame := recordable_of_event stored wellFormed adds
      rw [if_pos matching, Trace.Recorder.recordFrame_eq_write _ fits.recordFault] at recorder
      rw [adds]
      exact recorder
    · rw [if_neg matching] at recorder
      rw [show (Call.capture frame).event? engine.format = none from if_neg matching]
      exact recorder
  | render frame =>
    have recorder := recorder_render engine frame
    by_cases matching : frame.Matches engine.format engine.format.reverseChannels
    · have adds : (Call.render frame).event? engine.format = some (.rendered frame) :=
        if_pos matching
      have fits : Trace.FitsRecord frame := recordable_of_event stored wellFormed adds
      rw [if_pos matching, Trace.Recorder.recordFrame_eq_write _ fits.recordFault] at recorder
      rw [adds]
      exact recorder
    · rw [if_neg matching] at recorder
      rw [show (Call.render frame).event? engine.format = none from if_neg matching]
      exact recorder
  | _ => exact recorder_of_frameless rfl going

/-- A call adds to a recording that goes on what it is said to add. -/
theorem tookDown_perform (stored : engine.Stored) (wellFormed : call.WellFormed)
    (going : ¬ call.EndsRecording) {before : Trace.Bytes} {events : List Trace.Event}
    (took : engine.recorder.TookDown before events) :
    (engine.perform call).state.recorder.TookDown before
      (events ++ (call.event? engine.format).toList) := by
  rw [recorder_perform stored wellFormed going]
  cases adds : call.event? engine.format with
  | none => rwa [Option.toList_none, List.append_nil]
  | some event => exact took.write (recordable_of_event stored wellFormed adds)

/-- A run adds to a recording that goes on what it is said to add. -/
theorem tookDown_run (stored : engine.Stored) {calls : List Call}
    (wellFormed : ∀ call ∈ calls, call.WellFormed) (going : ∀ call ∈ calls, ¬ call.EndsRecording)
    {before : Trace.Bytes} {events : List Trace.Event}
    (took : engine.recorder.TookDown before events) :
    (engine.run calls).2.recorder.TookDown before (events ++ engine.eventsOf calls) := by
  induction calls generalizing engine events with
  | nil => rwa [eventsOf, List.append_nil]
  | cons call calls inductionHypothesis =>
    obtain ⟨firstWellFormed, laterWellFormed⟩ := List.forall_mem_cons.mp wellFormed
    obtain ⟨firstGoing, laterGoing⟩ := List.forall_mem_cons.mp going
    rw [eventsOf, ← List.append_assoc]
    exact inductionHypothesis (stored.perform firstWellFormed) laterWellFormed laterGoing
      (tookDown_perform stored firstWellFormed firstGoing took)

/-- What a call does to the format is told by the format alone. -/
theorem format_perform (engine : Engine) (call : Call) :
    (engine.perform call).state.format =
      match call.target? engine.format with
      | some (.ok format) => format
      | _ => engine.format := by
  cases target : call.target? engine.format with
  | some change =>
    cases change with
    | error cause => rw [(perform_of_target_error target).2]
    | ok format =>
      rw [perform_of_target target]
      dsimp only [replying]
      rw [restart_state]
  | none =>
    rcases perform_of_no_target target with ⟨kind, enabled, rfl⟩ | ⟨format, -⟩
    · dsimp only [perform, replying]
      rcases enable_cases kind enabled engine with ⟨_, _, state⟩ | ⟨_, _, _, _, _, _, state⟩ |
        ⟨_, _, state⟩ <;> rw [state]
    · exact format

/-- What a run adds to a recording does not depend on the effects: engines of the same format add
the same. -/
theorem eventsOf_congr {first second : Engine} (format : first.format = second.format)
    (calls : List Call) : first.eventsOf calls = second.eventsOf calls := by
  induction calls generalizing first second with
  | nil => rfl
  | cons call calls inductionHypothesis =>
    have next : (first.perform call).state.format = (second.perform call).state.format := by
      rw [format_perform, format_perform, format]
    rw [eventsOf, eventsOf, format, inductionHypothesis next]

/-- A call that ends the recording lets go of its sink before any other. -/
theorem released_of_endsRecording (ends : call.EndsRecording) {sink : Trace.Sink}
    (current : engine.recorder.sink = some sink) : [sink] <+: (engine.perform call).released := by
  rw [← Trace.Recorder.released_stop current]
  cases call with
  | record other => exact Act.released_prefix_andThen _ _ _
  | recordFile path opened => exact Act.released_prefix_andThen _ _ _
  | stopRecording => exact List.prefix_rfl
  | _ => cases ends

/-- The end of an engine lets go of the sink of its recording. -/
theorem released_close {sink : Trace.Sink} (current : engine.recorder.sink = some sink) :
    (close engine).released = [sink] := by
  rw [← Trace.Recorder.released_stop current]
  simp only [close, Act.onFault]
  split <;> rfl

/-- A recording holds the frames that were taken in. A recording that begins with an answer, on a
sink whose writes do not fail, goes on through every run of calls that do not end it. What the sink
then holds behind what it held before is a trace that reads, without an error, as the start at the
rate of that time and as the frames that matched the format when they were handed over, in their
order and as they were handed over, whatever became of the calls. This sink is let go of by the call
that ends the recording, or by the end of the engine. -/
theorem recording_holds_matching_frames (engine : Engine) (reached : engine.Reachable)
    (sink : Trace.Sink) (lossless : sink.Lossless)
    (answered : (engine.perform (.record sink)).result = .ok .done) (calls : List Call)
    (wellFormed : ∀ call ∈ calls, call.WellFormed) (going : ∀ call ∈ calls, ¬ call.EndsRecording) :
    let started := (engine.perform (.record sink)).state
    let recorded := (started.run calls).2
    ∃ written trace, recorded.recorder.sink = some written ∧
      written.bytes = sink.bytes ++ trace ∧
      Trace.Reads trace (.started engine.format.rate.hz.toInt32 :: started.eventsOf calls) none ∧
      (∀ call : Call, call.EndsRecording → [written] <+: (recorded.perform call).released) ∧
      (close recorded).released = [written] := by
  intro started recorded
  have stored : started.Stored := reached.stored.perform trivial
  have begun : started.recorder.TookDown sink.bytes [.started engine.format.rate.hz.toInt32] := by
    refine Trace.Recorder.tookDown_start lossless engine.format.rate.hz ?_
    obtain ⟨value, answered, -⟩ := exists_of_map_eq_ok answered
    exact answered
  have took := tookDown_run stored wellFormed going begun
  obtain ⟨written, trace, current, bytes, reads⟩ := took.reads
  exact ⟨written, trace, current, bytes, reads, fun call ends =>
    released_of_endsRecording ends current, released_close current⟩

/-- An engine that mixes two channels down at the lowest rate, with the echo canceller on. -/
def meeting : Engine :=
  ((blank 0 {}).run [.setRate 8000, .setChannels 2 1, .enable .echoCanceller true]).2

/-- A frame of another rate, a frame that the echo canceller refuses because no delay was reported,
and after a change of rate a frame from each side. -/
def minutes : List Call :=
  [.capture (.silent 16000 1 160), .capture (.silent 8000 2 80), .enable .echoCanceller false,
    .setRate 16000, .render (.silent 16000 1 160), .capture (.silent 16000 2 160)]

/-- The recording of the meeting, on a sink that takes seven bytes at a time, holds the frame that
the echo canceller refuses, with both its channels, and the frames at the new rate, but not the
frame that did not match. -/
theorem recording_holds_matching_frames_meeting :
    meeting.Reachable ∧ (Trace.Sink.unlimited 1 7).Lossless ∧
      (meeting.perform (.record (.unlimited 1 7))).result = .ok .done ∧
      (∀ call ∈ minutes, call.WellFormed) ∧ (∀ call ∈ minutes, ¬ call.EndsRecording) ∧
      (meeting.perform (.capture (.silent 8000 2 80))).result = .error .parameterNotSet ∧
      ∃ written, ((meeting.perform (.record (.unlimited 1 7))).state.run minutes).2.recorder.sink =
          some written ∧
        Trace.Reads written.bytes
          [.started 8000, .captured (.silent 8000 2 80), .rendered (.silent 16000 1 160),
            .captured (.silent 16000 2 160)] none := by
  have reached : meeting.Reachable :=
    ⟨{}, [.setRate 8000, .setChannels 2 1, .enable .echoCanceller true], blank 0 {}, rfl,
      by decide, rfl⟩
  have lossless : (Trace.Sink.unlimited 1 7).Lossless := fun _ _ => ⟨6, rfl⟩
  have answered : (meeting.perform (.record (.unlimited 1 7))).result = .ok .done :=
    congrArg (Except.map fun _ => Reply.done)
      (Trace.Recorder.start_result lossless meeting.format.rate.hz meeting.recorder)
  have wellFormed : ∀ call ∈ minutes, call.WellFormed := by
    simp only [minutes, List.forall_mem_cons, Call.WellFormed, Frame.wellFormed_silent]
    simp
  have going : ∀ call ∈ minutes, ¬ call.EndsRecording := by
    simp only [minutes, List.forall_mem_cons, Call.EndsRecording]
    simp
  obtain ⟨written, trace, current, bytes, reads, -, -⟩ :=
    recording_holds_matching_frames meeting reached (.unlimited 1 7) lossless answered minutes
      wellFormed going
  obtain rfl : written.bytes = trace := bytes
  have events : (meeting.perform (.record (.unlimited 1 7))).state.eventsOf minutes =
      [.captured (.silent 8000 2 80), .rendered (.silent 16000 1 160),
        .captured (.silent 16000 2 160)] := by
    have format : (meeting.perform (.record (.unlimited 1 7))).state.format =
        (blank 0 meeting.format).format := rfl
    rw [eventsOf_congr format]
    rfl
  rw [events] at reads
  exact ⟨reached, lossless, answered, wellFormed, going, by rfl, written, current, reads⟩

end Engine

end VoiceEngine
