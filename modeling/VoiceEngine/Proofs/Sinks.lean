import VoiceEngine.Trace.Recorder

/-!
# Writing to a sink that may fail

A sink may take the first bytes of what it is offered and then fail, and may work again later.
Whatever it does, it stays the same sink with more bytes behind those it had. The record of a frame
is offered to it as a whole, so a call that records a frame leaves either the whole record in the
sink or, if it fails, a first part of it.
-/

namespace VoiceEngine.Trace

namespace Sink

/-- A sink after it stored some more bytes. -/
structure Extended (before after : Sink) (piece : Bytes) : Prop where
  label : after.label = before.label
  reception : after.reception = before.reception
  flushFailure : after.flushFailure = before.flushFailure
  bytes : after.bytes = before.bytes ++ piece

/-- What was stored later stands behind what was stored earlier. -/
theorem Extended.trans {first second third : Sink} {piece next : Bytes}
    (early : first.Extended second piece) (late : second.Extended third next) :
    first.Extended third (piece ++ next) where
  label := late.label.trans early.label
  reception := late.reception.trans early.reception
  flushFailure := late.flushFailure.trans early.flushFailure
  bytes := by rw [late.bytes, early.bytes, List.append_assoc]

/-- Writing to a sink stores a first part of what is offered, and all of it exactly when nothing
failed. -/
theorem extended_writeAll (sink : Sink) (offered : Bytes) :
    ∃ piece, piece <+: offered ∧ sink.Extended (sink.writeAll offered).2 piece ∧
      ((sink.writeAll offered).1 = none ↔ piece = offered) := by
  obtain ⟨piece, rest, parts, bytes, complete⟩ := sink.bytes_writeAll offered
  have same : (sink.writeAll offered).2.label = sink.label ∧
      (sink.writeAll offered).2.reception = sink.reception ∧
      (sink.writeAll offered).2.flushFailure = sink.flushFailure := by
    clear parts bytes complete
    fun_induction Sink.writeAll sink offered with
    | case1 sink => exact ⟨rfl, rfl, rfl⟩
    | case2 => exact ⟨rfl, rfl, rfl⟩
    | case3 => exact ⟨rfl, rfl, rfl⟩
    | case4 sink byte others reception attempts room given inductionHypothesis =>
      exact inductionHypothesis
  obtain ⟨label, reception, flushFailure⟩ := same
  refine ⟨piece, ⟨rest, parts.symm⟩, ⟨label, reception, flushFailure, bytes⟩, ?_⟩
  rw [complete, parts]
  constructor
  · rintro rfl
    exact (List.append_nil piece).symm
  · intro whole
    exact List.append_right_eq_self.mp whole.symm

/-- A write that fails stores nothing. -/
theorem writeAll_of_fails {sink : Sink} {text : String}
    (given : sink.reception sink.attempts sink.stored.size = { uptake := .fails text })
    (byte : UInt8) (others : Bytes) :
    sink.writeAll (byte :: others) = (some text, { sink with attempts := sink.attempts + 1 }) := by
  rw [writeAll]
  simp only [given]

/-- A write that stores some bytes is followed by one for the rest. -/
theorem writeAll_of_stores {sink : Sink} {room : Nat}
    (given : sink.reception sink.attempts sink.stored.size = { uptake := .stores (room + 1) })
    (byte : UInt8) (others : Bytes) :
    sink.writeAll (byte :: others) =
      { sink with
        attempts := sink.attempts + 1
        stored := sink.stored ++ (byte :: others.take room) }.writeAll (others.drop room) := by
  rw [writeAll]
  simp only [given]

/-- A write with enough room stores everything. -/
theorem writeAll_of_room {sink : Sink} {room : Nat}
    (given : sink.reception sink.attempts sink.stored.size = { uptake := .stores (room + 1) })
    (byte : UInt8) {others : Bytes} (enough : others.length ≤ room) :
    sink.writeAll (byte :: others) =
      (none, { sink with
        attempts := sink.attempts + 1
        stored := sink.stored ++ (byte :: others) }) := by
  rw [writeAll_of_stores given, List.drop_of_length_le enough, List.take_of_length_le enough,
    writeAll]

/-- A write with enough room stores the magic line. -/
theorem writeAll_magic {sink : Sink} {room : Nat}
    (given : sink.reception sink.attempts sink.stored.size = { uptake := .stores (room + 1) })
    (enough : 13 ≤ room) :
    sink.writeAll magic =
      (none, { sink with
        attempts := sink.attempts + 1
        stored := sink.stored ++ magic }) :=
  writeAll_of_room given _ enough

/-- A sink with a script: its writes meet these uptakes, one after another, and then store
everything that they are offered. -/
def scripted (script : List Uptake) : Sink :=
  { label := 0, reception := fun attempts _ => { uptake := script.getD attempts (.stores 65536) } }

/-- A sink with room for a number of bytes. -/
def limited (capacity : Nat) : Sink where
  label := 0
  reception _ stored :=
    { uptake := if stored < capacity then .stores (capacity - stored) else .fails "no space left" }

end Sink

namespace Recorder

variable {recorder : Recorder} {sink : Sink}

/-- A record that is written goes to the sink, which is held whether or not it took everything. The
call fails exactly when it did not. -/
theorem write_spec (current : recorder.sink = some sink) (record : Bytes) :
    (write record recorder).state = { sink := some (sink.writeAll record).2 } ∧
      (write record recorder).result =
        if (sink.writeAll record).1 = none then .ok () else .error .file := by
  simp only [write, current]
  obtain ⟨failure, written⟩ := sink.writeAll record
  cases failure with
  | none => exact ⟨rfl, rfl⟩
  | some cause => exact ⟨rfl, rfl⟩

/-- The recording at hand, if there is one, can be flushed. -/
def Flushes (recorder : Recorder) : Prop := ∀ sink ∈ recorder.sink, sink.flushFailure = none

instance (recorder : Recorder) : Decidable recorder.Flushes := by
  unfold Flushes
  infer_instance

/-- Ending a recording lets go of its sink in any case, and fails when it cannot be flushed. -/
theorem stop_spec (recorder : Recorder) :
    (stop recorder).state = {} ∧
      (stop recorder).result = if recorder.Flushes then .ok () else .error .file := by
  obtain ⟨held⟩ := recorder
  cases held with
  | none => exact ⟨rfl, (if_pos nofun).symm⟩
  | some sink =>
    simp only [stop]
    cases flush : sink.flushFailure with
    | none =>
      have flushes : Flushes { sink := some sink } := fun other same => by
        cases same
        exact flush
      exact ⟨rfl, (if_pos flushes).symm⟩
    | some cause =>
      have fails : ¬ Flushes { sink := some sink } := fun flushes => by
        cases flush.symm.trans (flushes sink rfl)
      exact ⟨rfl, (if_neg fails).symm⟩

/-- How a recording begins. The sink is held from the magic line on, if the recording at hand could
be flushed; the call fails unless the record of the start is stored as well. -/
theorem start_spec (sink : Sink) (rate : UInt32) (recorder : Recorder) :
    let headed := sink.writeAll magic
    let opened := headed.2.writeAll (Event.started rate.toInt32).bytes
    (start sink rate recorder).state =
        (if recorder.Flushes ∧ headed.1 = none then { sink := some opened.2 } else {}) ∧
      (start sink rate recorder).result =
        if recorder.Flushes ∧ headed.1 = none ∧ opened.1 = none then .ok () else .error .file := by
  have start_eq : start sink rate = Act.andThen stop fun _ => begin sink rate := rfl
  obtain ⟨closed, stopped⟩ := stop_spec recorder
  rw [start_eq]
  by_cases flushes : recorder.Flushes
  · rw [if_pos flushes] at stopped
    rw [Act.andThen_of_ok stopped, closed]
    simp only [begin, flushes, true_and]
    obtain ⟨failure, written⟩ := sink.writeAll magic
    cases failure with
    | none => simpa only [true_and, if_true] using write_spec rfl (Event.started rate.toInt32).bytes
    | some cause => exact ⟨rfl, rfl⟩
  · rw [if_neg flushes] at stopped
    rw [Act.andThen_of_error stopped]
    simp only [flushes, false_and]
    exact ⟨closed, rfl⟩

/-- A recording with a file begins as one with the sink that opening the file gives. -/
theorem startFile_spec (path : String) (sink : Sink) (rate : UInt32) (recorder : Recorder) :
    (startFile path (.ok sink) rate recorder).state = (start sink rate recorder).state ∧
      (startFile path (.ok sink) rate recorder).result = (start sink rate recorder).result := by
  have start_eq : start sink rate = Act.andThen stop fun _ => begin sink rate := rfl
  have startFile_eq : startFile path (.ok sink) rate = Act.andThen stop fun _ =>
    Act.andThen (Act.notify (.recordingOpened path)) fun _ => start sink rate := rfl
  obtain ⟨closed, stopped⟩ := stop_spec recorder
  by_cases flushes : recorder.Flushes
  · rw [if_pos flushes] at stopped
    rw [startFile_eq, Act.andThen_of_ok stopped, start_eq, Act.andThen_of_ok stopped, closed]
    exact ⟨rfl, rfl⟩
  · rw [if_neg flushes] at stopped
    rw [startFile_eq, Act.andThen_of_error stopped, start_eq, Act.andThen_of_error stopped]
    exact ⟨rfl, rfl⟩

/-- A recording begins on a sink that has room for the magic line and then for the record of the
start. -/
theorem start_of_room {room more : Nat}
    (first : sink.reception sink.attempts sink.stored.size = { uptake := .stores (room + 1) })
    (enough : 13 ≤ room)
    (second : sink.reception (sink.attempts + 1) (sink.stored.size + 14) =
      { uptake := .stores (more + 1) })
    (alsoEnough : 4 ≤ more) (rate : UInt32) :
    let written : Sink :=
      { sink with
        attempts := sink.attempts + 2
        stored := sink.stored ++ bytesOfEvents [.started rate.toInt32] }
    (start sink rate {}).state = { sink := some written } ∧
      (start sink rate {}).result = .ok () := by
  intro written
  let headed : Sink :=
    { sink with attempts := sink.attempts + 1, stored := sink.stored ++ magic }
  have header : sink.writeAll magic = (none, headed) := Sink.writeAll_magic first enough
  have size : headed.stored.size = sink.stored.size + 14 := by
    simp [headed, magic]
  have stored : sink.stored ++ bytesOfEvents [.started rate.toInt32] =
      headed.stored ++ (Event.started rate.toInt32).bytes := by
    apply Array.toList_inj.mp
    simp [headed, bytesOfEvents]
  have record : headed.writeAll (Event.started rate.toInt32).bytes = (none, written) := by
    simp only [written, stored]
    refine Sink.writeAll_of_room ?_ _ alsoEnough
    rw [size]
    exact second
  have flushes : Flushes {} := nofun
  obtain ⟨state, result⟩ := start_spec sink rate {}
  rw [header] at state result
  dsimp only at state result
  rw [record] at state result
  rw [state, result, if_pos ⟨flushes, rfl⟩, if_pos ⟨flushes, rfl, rfl⟩]
  exact ⟨rfl, rfl⟩

/-- Recording a frame that has a record writes it. -/
theorem recordFrame_eq_write (event : Frame → Event) {frame : Frame}
    (fits : recordFault frame = none) (recorder : Recorder) :
    recordFrame event frame recorder = write (event frame).bytes recorder := by
  rw [recordFrame, fits]
  split
  case isTrue => rfl
  case isFalse closed =>
    have none_held : recorder.sink = none := by simpa [isOpen] using closed
    rw [write, none_held]

/-- Recording a frame changes nothing, because no recording goes on or the frame has no record, or
it writes its record. -/
theorem recordFrame_cases (event : Frame → Event) (frame : Frame) (recorder : Recorder) :
    (recordFrame event frame recorder).state = recorder ∧
        (recordFrame event frame recorder).result ≠ .error .file ∨
      ∃ sink, recorder.sink = some sink ∧
        recordFrame event frame recorder = write (event frame).bytes recorder := by
  simp only [recordFrame]
  split
  case isTrue isOpen =>
    obtain ⟨sink, current⟩ := Option.isSome_iff_exists.mp isOpen
    cases unfit : recordFault frame with
    | none => exact .inr ⟨sink, current, rfl⟩
    | some fault =>
      refine .inl ⟨rfl, ?_⟩
      simp only [recordFault] at unfit
      split at unfit
      · cases unfit
        exact nofun
      · split at unfit
        · cases unfit
          exact nofun
        · cases unfit
  case isFalse closed => exact .inl ⟨rfl, nofun⟩

end Recorder

end VoiceEngine.Trace
