import VoiceEngine.Proofs.FailingSinks

/-!
# Beginning a recording

A recording is asked for with a sink or with a file. The recording at hand is flushed, then the
magic line is written, then the record of the start, and each of these can fail. If one of the first
two fails, the new sink is let go of, and it is as if no recording had ever been asked for. If only
the record of the start fails, the call fails but the sink is held, and every frame that comes later
is written to it.
-/

namespace VoiceEngine

/-- How a recording is asked for. -/
inductive Opening
  | into (sink : Trace.Sink)
  | file (path : String) (opened : Except String Trace.Sink)

namespace Opening

/-- Begins the recording at a rate, in place of the recording at hand. -/
def start (rate : UInt32) : Opening → Act Trace.Recorder Unit
  | into sink => Trace.Recorder.start sink rate
  | file path opened => Trace.Recorder.startFile path opened rate

/-- The sink that is to be written to, if there is one. -/
def sink? : Opening → Option Trace.Sink
  | into sink => some sink
  | file _ (.ok sink) => some sink
  | file _ (.error _) => none

/-- The call that asks for the recording. -/
def call : Opening → Call
  | into sink => .record sink
  | file path opened => .recordFile path opened

/-- An engine begins the recording at its rate. -/
theorem perform_call (opening : Opening) (engine : Engine) :
    engine.perform opening.call = Engine.replying (fun _ => .done)
      (Engine.recording (opening.start engine.format.rate.hz) engine) := by
  cases opening with
  | into sink => rfl
  | file path opened => rfl

end Opening

/-- A call that asks for a recording. -/
def Call.Opens (call : Call) : Prop := ∃ opening : Opening, call = opening.call

namespace Engine

variable {engine : Engine} {call : Call}

/-- An engine that does not record does not begin to by itself, and fails to record nothing. -/
theorem idle_perform (idle : engine.recorder = {}) (other : ¬ call.Opens) :
    (engine.perform call).state.recorder = {} ∧
      (call.frame?.isSome → (engine.perform call).result ≠ .error .file) := by
  have held_none : engine.recorder.sink = none := congrArg Trace.Recorder.sink idle
  cases call with
  | capture frame =>
    constructor
    · have recorder := recorder_capture engine frame
      rw [idle] at recorder
      exact recorder.trans (ite_self _)
    · intro _ failed
      rcases capture_error (error_of_replying failed) with
        (refusal | refusal) | ⟨-, ⟨other, -⟩ | ⟨-, sink, -, -, held, -⟩⟩
      · cases refusal
      · cases refusal
      · exact other rfl
      · cases held_none.symm.trans held
  | render frame =>
    constructor
    · have recorder := recorder_render engine frame
      rw [idle] at recorder
      exact recorder.trans (ite_self _)
    · intro _ failed
      rcases render_error (error_of_replying failed) with
        refusal | ⟨other, -⟩ | ⟨-, sink, -, -, held, -⟩
      · cases refusal
      · exact other rfl
      · cases held_none.symm.trans held
  | record sink => exact absurd ⟨.into sink, rfl⟩ other
  | recordFile path opened => exact absurd ⟨.file path opened, rfl⟩ other
  | stopRecording => exact ⟨(Trace.Recorder.stop_spec engine.recorder).1, nofun⟩
  | _ => exact ⟨Eq.trans (recorder_of_frameless rfl not_false) idle, nofun⟩

/-- An engine that does not record stays so until it is asked to, and until then no frame fails to
be recorded. -/
theorem idle_run (idle : engine.recorder = {}) {calls : List Call}
    (others : ∀ call ∈ calls, ¬ call.Opens) :
    (engine.run calls).2.recorder = {} ∧
      ∀ receipt ∈ engine.receipts calls, receipt.call.frame?.isSome →
        receipt.result ≠ .error .file := by
  induction calls generalizing engine with
  | nil => exact ⟨idle, List.forall_mem_nil _⟩
  | cons call calls inductionHypothesis =>
    obtain ⟨first, later⟩ := List.forall_mem_cons.mp others
    obtain ⟨stillIdle, succeeds⟩ := idle_perform idle first
    obtain ⟨final, laterSucceed⟩ := inductionHypothesis stillIdle later
    exact ⟨final, List.forall_mem_cons.mpr ⟨succeeds, laterSucceed⟩⟩

end Engine

namespace Opening

variable (opening : Opening) (rate : UInt32) (recorder : Trace.Recorder)

/-- Beginning a recording is all or nothing. The call answers exactly when a recording goes on
afterwards. Then the sink received the magic line and the record of the start. Otherwise no sink is
held, and no engine with the recorder that is left fails to record a frame, as long as it is not
asked for a recording again. -/
structure AllOrNothing : Prop where
  fails_of_file : (opening.start rate recorder).result = .ok () ∨
    (opening.start rate recorder).result = .error .file
  isOpen_iff : (opening.start rate recorder).state.isOpen = true ↔
    (opening.start rate recorder).result = .ok ()
  received : (opening.start rate recorder).result = .ok () → ∃ sink written,
    opening.sink? = some sink ∧ (opening.start rate recorder).state.sink = some written ∧
      sink.Extended written (Trace.bytesOfEvents [.started rate.toInt32])
  nothing : (opening.start rate recorder).result = .error .file →
    (opening.start rate recorder).state = {} ∧
      ∀ engine : Engine, engine.recorder = (opening.start rate recorder).state →
        ∀ calls, (∀ call ∈ calls, ¬ call.Opens) →
          (engine.run calls).2.recorder = {} ∧
            ∀ receipt ∈ engine.receipts calls, receipt.call.frame?.isSome →
              receipt.result ≠ .error .file

/-- The new sink takes the magic line and not the whole record of the start, and the recording at
hand does not get in the way of that. -/
def Balks : Prop :=
  recorder.Flushes ∧ ∃ sink, opening.sink? = some sink ∧ (sink.writeAll Trace.magic).1 = none ∧
    ((sink.writeAll Trace.magic).2.writeAll (Trace.Event.started rate.toInt32).bytes).1 ≠ none

variable {opening rate recorder}

/-- A recording that is asked for with a sink begins as one with that sink, whether or not it is
that of a file. -/
theorem start_of_sink {sink : Trace.Sink} (given : opening.sink? = some sink) :
    (opening.start rate recorder).state = (Trace.Recorder.start sink rate recorder).state ∧
      (opening.start rate recorder).result = (Trace.Recorder.start sink rate recorder).result := by
  cases opening with
  | into sink =>
    cases given
    exact ⟨rfl, rfl⟩
  | file path opened =>
    cases opened with
    | error cause => cases given
    | ok sink =>
      cases given
      exact Trace.Recorder.startFile_spec path sink rate recorder

/-- A recording with a file that cannot be opened does not begin, and the recording at hand ends. -/
theorem start_of_no_sink (given : opening.sink? = none) :
    (opening.start rate recorder).state = {} ∧
      (opening.start rate recorder).result = .error .file := by
  cases opening with
  | into sink => cases given
  | file path opened =>
    cases opened with
    | ok sink => cases given
    | error cause =>
      have start_eq : (file path (.error cause)).start rate =
          Act.andThen Trace.Recorder.stop fun _ =>
            Act.andThen (Act.notify (.recordingNotOpened path cause)) fun _ => Act.refuse .file :=
        rfl
      obtain ⟨closed, stopped⟩ := Trace.Recorder.stop_spec recorder
      rw [start_eq]
      split at stopped
      · rw [Act.andThen_of_ok stopped]
        exact ⟨closed, rfl⟩
      · rw [Act.andThen_of_error stopped]
        exact ⟨closed, rfl⟩

/-- A recording that did not begin and holds no sink began not at all. -/
theorem allOrNothing_of_nothing (closed : (opening.start rate recorder).state = {})
    (failed : (opening.start rate recorder).result = .error .file) :
    opening.AllOrNothing rate recorder where
  fails_of_file := .inr failed
  isOpen_iff := by
    rw [closed, failed]
    exact ⟨nofun, nofun⟩
  received answered := by
    rw [failed] at answered
    cases answered
  nothing _ := ⟨closed, fun _ same _ others => Engine.idle_run (same.trans closed) others⟩

/-- A recording that began holds a sink that took the magic line and the record of the start. -/
theorem allOrNothing_of_all {sink : Trace.Sink} (given : opening.sink? = some sink)
    (flushes : recorder.Flushes) (headed : (sink.writeAll Trace.magic).1 = none)
    (recorded : ((sink.writeAll Trace.magic).2.writeAll
      (Trace.Event.started rate.toInt32).bytes).1 = none) :
    opening.AllOrNothing rate recorder := by
  obtain ⟨state, result⟩ := Trace.Recorder.start_spec sink rate recorder
  rw [if_pos ⟨flushes, headed⟩, ← (start_of_sink given).1] at state
  rw [if_pos ⟨flushes, headed, recorded⟩, ← (start_of_sink given).2] at result
  refine ⟨.inl result, ?_, ?_, ?_⟩
  · rw [state, result]
    exact ⟨fun _ => rfl, fun _ => rfl⟩
  · intro answered
    refine ⟨sink, _, given, congrArg Trace.Recorder.sink state, ?_⟩
    obtain ⟨line, -, header, whole⟩ := sink.extended_writeAll Trace.magic
    obtain ⟨record, -, start, alsoWhole⟩ := (sink.writeAll Trace.magic).2.extended_writeAll
      (Trace.Event.started rate.toInt32).bytes
    rw [whole.mp headed] at header
    rw [alsoWhole.mp recorded] at start
    exact header.trans start
  · intro failed
    rw [result] at failed
    cases failed

/-- A recording that balks fails although it goes on, with a sink that holds the magic line and a
first part of the record of the start. -/
theorem start_of_balks (balks : opening.Balks rate recorder) :
    (opening.start rate recorder).result = .error .file ∧
      (opening.start rate recorder).state.isOpen = true ∧
      ∃ sink held part, opening.sink? = some sink ∧
        (opening.start rate recorder).state.sink = some held ∧
        sink.Extended held (Trace.magic ++ part) ∧
        part <+: (Trace.Event.started rate.toInt32).bytes ∧
        part ≠ (Trace.Event.started rate.toInt32).bytes := by
  obtain ⟨flushes, sink, given, headed, broken⟩ := balks
  obtain ⟨state, result⟩ := Trace.Recorder.start_spec sink rate recorder
  rw [if_pos ⟨flushes, headed⟩, ← (start_of_sink given).1] at state
  rw [if_neg fun whole => broken whole.2.2, ← (start_of_sink given).2] at result
  obtain ⟨line, -, header, whole⟩ := sink.extended_writeAll Trace.magic
  obtain ⟨part, shorter, start, complete⟩ := (sink.writeAll Trace.magic).2.extended_writeAll
    (Trace.Event.started rate.toInt32).bytes
  rw [whole.mp headed] at header
  refine ⟨result, by rw [state]; rfl, sink, _, part, given, congrArg Trace.Recorder.sink state,
    header.trans start, shorter, ?_⟩
  intro all
  exact broken (complete.mpr all)

/-- When a recording begins all or not at all. This fails in one case only: the recording at hand
can be flushed, and the new sink takes the magic line but not the whole record of the start. In that
case the call fails because of the file and the recording goes on with that sink, which holds the
magic line and a first part of the record. -/
theorem allOrNothing_iff (opening : Opening) (rate : UInt32) (recorder : Trace.Recorder) :
    (opening.AllOrNothing rate recorder ↔ ¬ opening.Balks rate recorder) ∧
      (opening.Balks rate recorder →
        (opening.start rate recorder).result = .error .file ∧
          (opening.start rate recorder).state.isOpen = true ∧
          ∃ sink held part, opening.sink? = some sink ∧
            (opening.start rate recorder).state.sink = some held ∧
            sink.Extended held (Trace.magic ++ part) ∧
            part <+: (Trace.Event.started rate.toInt32).bytes ∧
            part ≠ (Trace.Event.started rate.toInt32).bytes) := by
  refine ⟨⟨?_, ?_⟩, start_of_balks⟩
  · intro law balks
    obtain ⟨failed, goesOn, -⟩ := start_of_balks balks
    rw [law.isOpen_iff.mp goesOn] at failed
    cases failed
  · intro smooth
    cases given : opening.sink? with
    | none =>
      exact allOrNothing_of_nothing (start_of_no_sink given).1 (start_of_no_sink given).2
    | some sink =>
      by_cases headed : recorder.Flushes ∧ (sink.writeAll Trace.magic).1 = none
      · by_cases recorded : ((sink.writeAll Trace.magic).2.writeAll
            (Trace.Event.started rate.toInt32).bytes).1 = none
        · exact allOrNothing_of_all given headed.1 headed.2 recorded
        · exact absurd ⟨headed.1, sink, given, headed.2, recorded⟩ smooth
      · obtain ⟨state, result⟩ := Trace.Recorder.start_spec sink rate recorder
        rw [if_neg headed, ← (start_of_sink given).1] at state
        rw [if_neg fun all => headed ⟨all.1, all.2.1⟩, ← (start_of_sink given).2] at result
        exact allOrNothing_of_nothing state result

/-- A sink with room for the magic line and two bytes more, once it took the magic line. -/
def headedSink : Trace.Sink :=
  { Trace.Sink.limited 16 with
    attempts := 1
    stored := (Trace.Sink.limited 16).stored ++ Trace.magic }

/-- The sink once it took the first two bytes of the record of the start. -/
def fullSink : Trace.Sink :=
  { headedSink with attempts := 3, stored := headedSink.stored ++ ([0, 64] : Trace.Bytes) }

/-- The sink takes the magic line and not the whole record of the start. -/
theorem writes_limited :
    (Trace.Sink.limited 16).writeAll Trace.magic = (none, headedSink) ∧
      headedSink.writeAll (Trace.Event.started 8000).bytes = (some "no space left", fullSink) := by
  constructor
  · have given : (Trace.Sink.limited 16).reception 0 0 = { uptake := .stores 16 } := rfl
    exact Trace.Sink.writeAll_magic given (by decide)
  · have first : headedSink.reception 1 14 = { uptake := .stores 2 } := rfl
    have second : headedSink.reception 2 16 = { uptake := .fails "no space left" } := rfl
    rw [Trace.Event.bytes, Trace.Sink.writeAll_of_stores first]
    exact Trace.Sink.writeAll_of_fails second _ _

/-- A recording that fails to begin goes on. An engine is asked to record to a sink with room for
sixteen bytes. The call fails, but the recording goes on, and a captured frame that the engine would
take fails because of that sink. -/
theorem not_allOrNothing_limited :
    let started := Engine.plain.perform (Opening.into (.limited 16)).call
    Engine.plain.Reachable ∧ Engine.plain.isRecording = false ∧ started.result = .error .file ∧
      started.state.isRecording = true ∧
      (Engine.plain.perform (.capture Engine.silence)).result ≠ .error .file ∧
      (started.state.perform (.capture Engine.silence)).result = .error .file ∧
      ¬ (Opening.into (.limited 16)).AllOrNothing Engine.plain.format.rate.hz
        Engine.plain.recorder := by
  intro started
  have reached : Engine.plain.Reachable :=
    ⟨{}, [.setRate 8000], Engine.blank 0 {}, rfl, by decide, rfl⟩
  have idle : Engine.plain.recorder = {} := rfl
  -- The sink is held, with two bytes of the record of the start.
  obtain ⟨headed, part⟩ := writes_limited
  have flushes : Trace.Recorder.Flushes {} := nofun
  obtain ⟨state, result⟩ := Trace.Recorder.start_spec (.limited 16) 8000 {}
  rw [headed] at state result
  dsimp only at state result
  have rate : (8000 : UInt32).toInt32 = 8000 := rfl
  rw [rate, part] at state result
  rw [if_pos ⟨flushes, rfl⟩] at state
  rw [if_neg fun whole => nomatch whole.2.2] at result
  have performed := (Opening.into (.limited 16)).perform_call Engine.plain
  have failed : started.result = .error .file :=
    (congrArg Outcome.result performed).trans (congrArg (Except.map fun _ => Reply.done) result)
  have held : started.state.recorder.sink = some fullSink :=
    (congrArg (fun outcome => outcome.state.recorder.sink) performed).trans
      (congrArg Trace.Recorder.sink state)
  have goesOn : started.state.isRecording = true := congrArg Option.isSome held
  -- It takes nothing more, so the frame is not recorded.
  have taken : (Engine.plain.perform (.capture Engine.silence)).result ≠ .error .file := by
    have frameless : ¬ (Call.capture Engine.silence).Opens := by
      rintro ⟨_ | _, same⟩ <;> cases same
    exact (Engine.idle_perform idle frameless).2 rfl
  have stored : started.state.Stored := reached.stored.perform trivial
  have wellFormed : (Call.capture Engine.silence).WellFormed := Frame.wellFormed_silent 8000 1 80
  have adds : (Call.capture Engine.silence).event? started.state.format =
      some (.captured Engine.silence) := by
    rw [Engine.format_perform]
    rfl
  have nextFails : isFileFault (started.state.perform (.capture Engine.silence)).result = true := by
    rw [(Engine.perform_of_event stored wellFormed adds held).2,
      Trace.Event.bytes, Trace.frameBytes_eq, Trace.Sink.writeAll_of_fails rfl]
    rintro ⟨⟩
  refine ⟨reached, rfl, failed, goesOn, taken, isFileFault_iff.mp nextFails, fun law => ?_⟩
  cases result.symm.trans (law.isOpen_iff.mp goesOn)

end Opening

end VoiceEngine
