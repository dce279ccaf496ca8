import VoiceEngine.Proofs.Readiness
import VoiceEngine.Proofs.Receipts
import VoiceEngine.Proofs.Sinks

/-!
# Rejected calls

A call that names a value which cannot be set, an effect that cannot be switched or a frame that
does not match the format is rejected. It leaves the engine and the frame as they were, so a run in
which the rejected calls are left out gives every other call the same receipt and leads to the same
engine.

Two kinds of failing calls are not counted among them because they do leave something behind. A
negative stream delay is refused but counts as reported, and a record that the sink did not take as
a whole leaves its first bytes there.
-/

namespace VoiceEngine

/-- The faults with which a call is rejected. -/
def Call.Rejects : Call → Fault → Prop
  | setRate _, fault | setChannels .., fault | setReverseChannels _, fault | adjust _, fault =>
    fault = .badParameter
  | enable .., _ => True
  | capture _, fault | render _, fault =>
    fault = .badSampleRate ∨ fault = .badChannelCount ∨ fault = .badDataLength
  | _, _ => False

instance : (call : Call) → (fault : Fault) → Decidable (call.Rejects fault)
  | .setRate _, fault | .setChannels .., fault | .setReverseChannels _, fault | .adjust _, fault =>
    inferInstanceAs (Decidable (fault = .badParameter))
  | .enable .., _ => inferInstanceAs (Decidable True)
  | .capture _, fault | .render _, fault =>
    inferInstanceAs
      (Decidable (fault = .badSampleRate ∨ fault = .badChannelCount ∨ fault = .badDataLength))
  | .restart, _ | .reportDelay _, _ | .changeId _, _ | .takeCapturedLevel, _
  | .takeRenderedLevel, _ | .record _, _ | .recordFile .., _ | .stopRecording, _ =>
    inferInstanceAs (Decidable False)

/-- The call of a receipt was rejected. -/
def Receipt.Rejected (receipt : Receipt) : Prop :=
  match receipt.result with
  | .ok _ => False
  | .error fault => receipt.call.Rejects fault

instance (receipt : Receipt) : Decidable receipt.Rejected := by
  unfold Receipt.Rejected
  cases receipt.result <;> infer_instance

/-- A stage of the captured stream refuses because a parameter is missing or for no named
reason. -/
theorem CaptureStage.fault_of_refusal {delay : StreamDelay} {rack : Rack}
    {bandLength channelCount : Nat} {stage : CaptureStage} {fault : Fault}
    (refused : stage.refusal delay rack bandLength channelCount = some fault) :
    fault = .parameterNotSet ∨ fault = .unspecified := by
  simp only [refusal] at refused
  split at refused
  · cases refused
    exact .inl rfl
  · split at refused
    · cases refused
      exact .inr rfl
    · cases refused

/-- A stage of the stream to the loudspeaker refuses for no named reason. -/
theorem RenderStage.fault_of_refusal {rack : Rack} {bandLength : Nat} {stage : RenderStage}
    {fault : Fault} (refused : stage.refusal rack bandLength = some fault) :
    fault = .unspecified := by
  cases stage with
  | echoCanceller =>
    simp only [refusal] at refused
    split at refused
    · exact (Option.some.inj refused).symm
    · cases refused
  | mobileEchoControl =>
    simp only [refusal] at refused
    split at refused
    · exact (Option.some.inj refused).symm
    · cases refused
  | gainControl => cases refused
  | levelMeter => cases refused

namespace Engine

variable {engine : Engine} {call : Call} {fault : Fault}

/-- Two engines are the same but for the sink of the recording, which took a first part of a record
and not the whole. -/
def FallsShort (before after : Engine) (record : Trace.Bytes) : Prop :=
  ∃ sink written piece, before.recorder.sink = some sink ∧ sink.Extended written piece ∧
    piece <+: record ∧ piece ≠ record ∧ after = { before with recorder := { sink := some written } }

/-- A frame that does not match is not a matter of the sink. -/
theorem frameFault_ne_file {channels : Nat} {frame : Frame} :
    engine.frameFault channels frame ≠ some .file := by
  simp only [frameFault]
  split
  · rintro ⟨⟩
  · split
    · rintro ⟨⟩
    · split <;> rintro ⟨⟩

/-- A frame that cannot be recorded changes nothing, unless the sink took a part of its record. -/
theorem recording_error {event : Frame → Trace.Event} {frame : Frame}
    (failed : (recording (Trace.Recorder.recordFrame event frame) engine).result = .error fault) :
    let after := (recording (Trace.Recorder.recordFrame event frame) engine).state
    fault ≠ .file ∧ after = engine ∨
      fault = .file ∧ engine.FallsShort after (event frame).bytes := by
  simp only [recording, Act.within] at failed ⊢
  rcases Trace.Recorder.recordFrame_cases event frame engine.recorder with
    ⟨state, result⟩ | ⟨sink, current, writes⟩
  · refine .inl ⟨?_, by rw [state]⟩
    rintro rfl
    exact result failed
  · obtain ⟨state, result⟩ := Trace.Recorder.write_spec current (event frame).bytes
    obtain ⟨piece, isPrefix, extended, complete⟩ := sink.extended_writeAll (event frame).bytes
    rw [writes, result] at failed
    rw [writes, state]
    split at failed
    case isTrue => cases failed
    case isFalse part =>
      cases failed
      exact .inr ⟨rfl, sink, _, piece, current, extended, isPrefix, mt complete.mpr part, rfl⟩

/-- How taking in a captured frame can fail: a stage refuses it, or it comes back as it was and the
engine is as it was too, unless the sink took a part of the record. -/
theorem capture_error {frame : Frame} (failed : (engine.capture frame).1.result = .error fault) :
    (fault = .parameterNotSet ∨ fault = .unspecified) ∨
      (engine.capture frame).2 = frame ∧
        (fault ≠ .file ∧ (engine.capture frame).1.state = engine ∨
          fault = .file ∧
            engine.FallsShort (engine.capture frame).1.state
              (Trace.Event.captured frame).bytes) := by
  simp only [capture] at failed ⊢
  cases mismatch : engine.frameFault engine.format.inputChannels frame with
  | some cause =>
    simp only [mismatch] at failed
    cases failed
    refine .inr ⟨rfl, .inl ⟨?_, rfl⟩⟩
    rintro rfl
    exact frameFault_ne_file mismatch
  | none =>
    simp only [mismatch] at failed
    dsimp only
    cases recorded : (recording (Trace.Recorder.recordFrame .captured frame) engine).result with
    | error cause =>
      simp only [recorded] at failed
      cases failed
      exact .inr ⟨rfl, recording_error recorded⟩
    | ok answer =>
      simp only [recorded] at failed
      obtain ⟨stage, refused⟩ := exists_refusal_of_process_error failed
      exact .inl (CaptureStage.fault_of_refusal refused)

/-- Letting the stages see a frame fails for no named reason. -/
theorem fault_of_observe_error {frame : Frame}
    (failed : (observe engine frame).result = .error fault) : fault = .unspecified := by
  rw [observe_result] at failed
  split at failed
  case h_1 => cases failed
  case h_2 stage cause found =>
    cases failed
    obtain ⟨source, -, reason⟩ := List.exists_of_findSome?_eq_some found
    obtain ⟨reason, refused, same⟩ := Option.map_eq_some_iff.mp reason
    cases same
    exact RenderStage.fault_of_refusal refused

/-- How taking in a frame to the loudspeaker can fail. -/
theorem render_error {frame : Frame} (failed : (render frame engine).result = .error fault) :
    fault = .unspecified ∨ fault ≠ .file ∧ (render frame engine).state = engine ∨
      fault = .file ∧
        engine.FallsShort (render frame engine).state (Trace.Event.rendered frame).bytes := by
  simp only [render] at failed ⊢
  cases mismatch : engine.frameFault engine.format.reverseChannels frame with
  | some cause =>
    simp only [mismatch] at failed
    cases failed
    refine .inr (.inl ⟨?_, rfl⟩)
    rintro rfl
    exact frameFault_ne_file mismatch
  | none =>
    simp only [mismatch] at failed
    dsimp only
    cases recorded : (recording (Trace.Recorder.recordFrame .rendered frame) engine).result with
    | error cause =>
      simp only [recorded] at failed
      cases failed
      exact .inr (recording_error recorded)
    | ok answer =>
      simp only [recorded] at failed
      exact .inl (fault_of_observe_error failed)

/-- An outcome whose answer is put differently fails as it did. -/
theorem error_of_replying {Answer : Type} {reply : Answer → Reply}
    {outcome : Outcome Engine Answer} (failed : (replying reply outcome).result = .error fault) :
    outcome.result = .error fault := by
  obtain ⟨result, state, notices, released⟩ := outcome
  cases result with
  | ok answer => cases failed
  | error cause =>
    cases failed
    rfl

/-- A setter of the format that is rejected changes nothing. -/
theorem perform_of_target_badParameter {change : Except FormatError Format}
    (target : call.target? engine.format = some change)
    (failed : (engine.perform call).result = .error .badParameter) :
    (engine.perform call).state = engine := by
  cases change with
  | error cause => exact (perform_of_target_error target).2
  | ok format =>
    -- A start fails for its rate only, so the target was not accepted.
    rw [perform_of_target target] at failed
    cases (restart_error (error_of_replying failed)).1

/-- A rejected call changes nothing: neither the engine nor the frame that it hands over. -/
theorem perform_of_rejects (failed : (engine.perform call).result = .error fault)
    (rejects : call.Rejects fault) :
    (engine.perform call).state = engine ∧ engine.leaves call = call.frame? := by
  cases call with
  | setRate hz =>
    cases rejects
    exact ⟨perform_of_target_badParameter rfl failed, rfl⟩
  | setChannels input output =>
    cases rejects
    exact ⟨perform_of_target_badParameter rfl failed, rfl⟩
  | setReverseChannels channels =>
    cases rejects
    exact ⟨perform_of_target_badParameter rfl failed, rfl⟩
  | enable kind enabled =>
    have refused := error_of_replying failed
    rcases enable_cases kind enabled engine with ⟨-, -, state⟩ | ⟨-, -, -, -, -, done, -⟩ |
      ⟨-, done, -⟩
    · exact ⟨state, rfl⟩
    · cases done.symm.trans refused
    · cases done.symm.trans refused
  | adjust setting =>
    have refused := error_of_replying failed
    simp only [perform, adjust, replying] at refused ⊢
    cases adjusted : engine.rack.adjust setting with
    | ok rack => simp [adjusted] at refused
    | error cause => exact ⟨rfl, rfl⟩
  | capture frame =>
    rcases capture_error (error_of_replying failed) with
      refusal | ⟨frame, ⟨-, state⟩ | ⟨rfl, -⟩⟩
    · rcases refusal with rfl | rfl <;> simp [Call.Rejects] at rejects
    · exact ⟨state, congrArg some frame⟩
    · simp [Call.Rejects] at rejects
  | render frame =>
    rcases render_error (error_of_replying failed) with rfl | ⟨-, state⟩ | ⟨rfl, -⟩
    · simp [Call.Rejects] at rejects
    · exact ⟨state, rfl⟩
    · simp [Call.Rejects] at rejects
  | _ => cases rejects

/-- A call with a rejected receipt changes nothing. -/
theorem perform_of_rejected (rejected : (engine.receipt call).Rejected) :
    (engine.perform call).state = engine ∧ engine.leaves call = call.frame? := by
  simp only [Receipt.Rejected, receipt] at rejected
  split at rejected
  case h_1 => cases rejected
  case h_2 fault failed => exact perform_of_rejects failed rejected

/-- The receipts of a run that were not rejected. -/
def keptReceipts (engine : Engine) (calls : List Call) : List Receipt :=
  (engine.receipts calls).filter (¬ ·.Rejected)

/-- A run in which the rejected calls are left out gives every other call the same receipt and leads
to the same engine. -/
theorem receipts_of_kept (engine : Engine) (calls : List Call) :
    let kept := (engine.keptReceipts calls).map (·.call)
    engine.receipts kept = engine.keptReceipts calls ∧
      (engine.run kept).2 = (engine.run calls).2 := by
  induction calls generalizing engine with
  | nil => exact ⟨rfl, rfl⟩
  | cons call calls inductionHypothesis =>
    obtain ⟨receipts, final⟩ := inductionHypothesis (engine.perform call).state
    by_cases rejected : (engine.receipt call).Rejected
    · have dropped : engine.keptReceipts (call :: calls) = engine.keptReceipts calls := by
        rw [keptReceipts, receipts_cons, List.filter_cons_of_neg (by simpa using rejected),
          (perform_of_rejected rejected).1]
        rfl
      rw [(perform_of_rejected rejected).1] at receipts final
      dsimp only
      rw [dropped, state_run_cons, (perform_of_rejected rejected).1]
      exact ⟨receipts, final⟩
    · have kept : engine.keptReceipts (call :: calls) =
          engine.receipt call :: (engine.perform call).state.keptReceipts calls := by
        rw [keptReceipts, receipts_cons, List.filter_cons_of_pos (by simpa using rejected)]
        rfl
      dsimp only
      rw [kept]
      exact ⟨congrArg (engine.receipt call :: ·) receipts, final⟩

/-- Rejected calls cannot be noticed. A call that is rejected leaves the whole engine and the frame
that it hands over as they were. A frame whose record the sink does not take as a whole comes back
as it was, and the engine differs in nothing but the first part of the record in the sink. A
negative delay changes nothing but that a delay counts as reported. So leaving the rejected calls
out of a run changes no other result, no other frame, no recording and nothing in the engine at the
end. -/
theorem rejected_calls_unnoticed (engine : Engine) :
    (∀ call, (engine.receipt call).Rejected →
      (engine.perform call).state = engine ∧ engine.leaves call = call.frame?) ∧
    (∀ frame, (engine.perform (.capture frame)).result = .error .file →
      engine.leaves (.capture frame) = some frame ∧
      engine.FallsShort (engine.perform (.capture frame)).state
        (Trace.Event.captured frame).bytes) ∧
    (∀ frame, (engine.perform (.render frame)).result = .error .file →
      engine.leaves (.render frame) = some frame ∧
      engine.FallsShort (engine.perform (.render frame)).state
        (Trace.Event.rendered frame).bytes) ∧
    (∀ ms < 0, (engine.perform (.reportDelay ms)).result = .error .badParameter ∧
      (engine.perform (.reportDelay ms)).state =
        { engine with delay := { engine.delay with isSet := true } }) ∧
    ∀ calls, engine.receipts ((engine.keptReceipts calls).map (·.call)) =
        engine.keptReceipts calls ∧
      (engine.run ((engine.keptReceipts calls).map (·.call))).2 = (engine.run calls).2 := by
  refine ⟨fun call => perform_of_rejected, ?_, ?_, ?_, receipts_of_kept engine⟩
  · intro frame failed
    rcases capture_error (error_of_replying failed) with
      (refusal | refusal) | ⟨same, ⟨other, -⟩ | ⟨-, short⟩⟩
    · cases refusal
    · cases refusal
    · exact absurd rfl other
    · exact ⟨congrArg some same, short⟩
  · intro frame failed
    rcases render_error (error_of_replying failed) with refusal | ⟨other, -⟩ | ⟨-, short⟩
    · cases refusal
    · exact absurd rfl other
    · exact ⟨rfl, short⟩
  · intro ms negative
    have refused : StreamDelay.reportFault ms = some .badParameter := if_pos negative
    simp only [perform, reportDelay, replying, refused, StreamDelay.report, if_pos negative]
    exact ⟨rfl, trivial⟩

/-- A sink with room for the magic line and the record of the start. -/
def crampedSink : Trace.Sink :=
  .scripted [.stores 14, .stores 5, .fails "no space left"]

/-- The sink once both are stored. -/
def filledSink : Trace.Sink :=
  { crampedSink with
    attempts := 2
    stored := crampedSink.stored ++ Trace.bytesOfEvents [.started 32000] }

/-- An engine at the highest rate that records to it. -/
def cramped : Engine := ((blank 0 {}).run [.setRate 32000, .record crampedSink]).2

/-- The recording begins, and fills the sink. -/
theorem sink_cramped : cramped.recorder.sink = some filledSink :=
  congrArg Trace.Recorder.sink
    (Trace.Recorder.start_of_room rfl (Nat.le_refl 13) rfl (Nat.le_refl 4) 32000).1

/-- The engine rejects mobile echo control at its rate and a frame of another rate, and cannot
record a frame that matches. -/
theorem rejected_calls_unnoticed_cramped :
    let switch : Call := .enable .mobileEchoControl true
    let misfit : Frame := .silent 16000 1 160
    let frame : Frame := .silent 32000 1 320
    cramped.Reachable ∧ (cramped.receipt switch).Rejected ∧
      (cramped.receipt (.capture misfit)).Rejected ∧
      (cramped.perform (.capture frame)).result = .error .file ∧
      (cramped.perform switch).state = cramped ∧
      cramped.leaves (.capture misfit) = some misfit ∧
      cramped.FallsShort (cramped.perform (.capture frame)).state
        (Trace.Event.captured frame).bytes ∧
      (cramped.run [switch, .reportDelay (-1), .capture misfit]).2 =
        (cramped.run [.reportDelay (-1)]).2 := by
  intro switch misfit frame
  have reached : cramped.Reachable :=
    ⟨{}, [.setRate 32000, .record crampedSink], blank 0 {}, rfl, by decide, rfl⟩
  have full : (cramped.perform (.capture frame)).result = .error .file := by
    have refused : (Trace.Recorder.recordFrame .captured frame cramped.recorder).result =
        .error .file := by
      rw [Trace.Recorder.recordFrame_eq_write _ rfl]
      simp only [Trace.Recorder.write, sink_cramped, Trace.Event.bytes, Trace.frameBytes,
        List.cons_append]
      rw [Trace.Sink.writeAll_of_fails rfl]
    have matching : cramped.frameFault cramped.format.inputChannels frame = none := rfl
    simp only [perform, replying, capture, matching, recording, Act.within, refused]
    rfl
  obtain ⟨unchanged, short, -, -, kept⟩ := rejected_calls_unnoticed cramped
  have switchRejected : (cramped.receipt switch).Rejected := trivial
  have misfitRejected : (cramped.receipt (.capture misfit)).Rejected := .inl rfl
  refine ⟨reached, switchRejected, misfitRejected, full, (unchanged _ switchRejected).1,
    (unchanged _ misfitRejected).2, (short frame full).2, ?_⟩
  have remaining :
      (cramped.keptReceipts [switch, .reportDelay (-1), .capture misfit]).map (·.call) =
        [.reportDelay (-1)] := rfl
  rw [← remaining]
  exact (kept _).2.symm

end Engine

end VoiceEngine
