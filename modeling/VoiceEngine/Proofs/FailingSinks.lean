import VoiceEngine.Proofs.Recording
import VoiceEngine.Proofs.Rejections

/-!
# Recordings on sinks that fail

A sink may fail in the middle of a record and work again later. The recording goes on with it, so
the next record stands behind a torn one, and a reader takes its bytes for the missing rest of the
torn record. What can be said of every sink is that it holds a first part of each record that it was
offered, the whole of it unless the call failed, and that a reader is not misled before the first
torn record. As long as nothing is stored behind a torn record the trace is as good as it can be: it
reads as the events of all calls that did not fail to record, and ends too early if the last piece
is torn. A sink that never works again after a failure never gets further than this.
-/

namespace VoiceEngine

/-- A call failed because of a file. -/
def isFileFault {Answer : Type} : Except Fault Answer → Bool
  | .error .file => true
  | _ => false

/-- There is one fault that is because of a file. -/
theorem isFileFault_iff {Answer : Type} {result : Except Fault Answer} :
    isFileFault result = true ↔ result = .error .file := by
  cases result with
  | ok answer => exact ⟨nofun, nofun⟩
  | error fault => cases fault <;> simp [isFileFault]

/-- A call that fails for one condition only, because of a file. -/
theorem isFileFault_ite {Answer : Type} {condition : Prop} [Decidable condition] {answer : Answer} :
    isFileFault (if condition then .ok answer else .error .file) = !decide condition := by
  by_cases holds : condition
  · rw [if_pos holds, decide_eq_true holds]
    rfl
  · rw [if_neg holds, decide_eq_false holds]
    rfl

/-- A result whose answer is put differently. -/
theorem isFileFault_map {First Second : Type} (change : First → Second)
    (result : Except Fault First) : isFileFault (result.map change) = isFileFault result := by
  cases result with
  | ok answer => rfl
  | error fault => cases fault <;> rfl

namespace Trace

/-- A record that a sink was offered, and the first part of it that the sink took. -/
structure Attempt where
  event : Event
  taken : Bytes
  isPrefix : taken <+: event.bytes

namespace Attempt

/-- The sink took the whole record. -/
def Whole (attempt : Attempt) : Prop := attempt.taken = attempt.event.bytes

/-- The sink took some of the record but not all of it. -/
def Torn (attempt : Attempt) : Prop := attempt.taken ≠ [] ∧ ¬ attempt.Whole

instance (attempt : Attempt) : Decidable attempt.Whole := by
  unfold Whole
  infer_instance

/-- What was offered, and whether the sink took all of it. -/
def outcome (attempt : Attempt) : Event × Bool := (attempt.event, attempt.Whole)

/-- All of a record was taken, or nothing, or it is torn. -/
theorem whole_or_nothing_or_torn (attempt : Attempt) :
    attempt.Whole ∨ attempt.taken = [] ∧ ¬ attempt.Whole ∨ attempt.Torn := by
  by_cases whole : attempt.Whole
  · exact .inl whole
  · by_cases nothing : attempt.taken = []
    · exact .inr (.inl ⟨nothing, whole⟩)
    · exact .inr (.inr ⟨nothing, whole⟩)

/-- A record of which nothing was taken is not whole, since a record has a tag. -/
theorem not_whole_of_nothing {attempt : Attempt} (nothing : attempt.taken = []) :
    ¬ attempt.Whole := by
  intro whole
  rw [Whole, nothing] at whole
  cases event : attempt.event <;> rw [event] at whole <;> cases whole

end Attempt

/-- What a sink took of several records. -/
def bytesTaken (attempts : List Attempt) : Bytes := attempts.flatMap (·.taken)

/-- The events among certain outcomes whose records were taken as a whole. -/
def wholeEvents (outcomes : List (Event × Bool)) : List Event :=
  (outcomes.filter (·.2)).map (·.1)

/-- The events whose records were taken as a whole. -/
def eventsTaken (attempts : List Attempt) : List Event :=
  wholeEvents (attempts.map Attempt.outcome)

/-- Nothing was stored behind a torn record. -/
def Orderly (attempts : List Attempt) : Prop :=
  attempts.Pairwise fun earlier later => earlier.Torn → later.taken = []

variable {attempts : List Attempt}

/-- What was taken of the first record comes first. -/
theorem bytesTaken_cons (attempt : Attempt) (attempts : List Attempt) :
    bytesTaken (attempt :: attempts) = attempt.taken ++ bytesTaken attempts :=
  List.flatMap_cons

/-- An event is only taken with its whole record. -/
theorem eventsTaken_cons (attempt : Attempt) (attempts : List Attempt) :
    eventsTaken (attempt :: attempts) =
      if attempt.Whole then attempt.event :: eventsTaken attempts else eventsTaken attempts := by
  rw [eventsTaken, List.map_cons, wholeEvents, List.filter_cons]
  have flag : attempt.outcome.2 = decide attempt.Whole := rfl
  rw [flag]
  by_cases whole : attempt.Whole
  · rw [if_pos whole, if_pos (decide_eq_true whole)]
    rfl
  · rw [if_neg whole, if_neg (by simpa using whole)]
    rfl

/-- An event that was taken is that of a record that was offered. -/
theorem exists_of_mem_eventsTaken {event : Event} (taken : event ∈ eventsTaken attempts) :
    ∃ attempt ∈ attempts, attempt.event = event := by
  obtain ⟨outcome, kept, rfl⟩ := List.mem_map.mp taken
  obtain ⟨attempt, member, rfl⟩ := List.mem_map.mp (List.mem_filter.mp kept).1
  exact ⟨attempt, member, rfl⟩

/-- Where nothing is torn, the bytes are those of the events. -/
theorem bytesTaken_of_intact (intact : ∀ attempt ∈ attempts, ¬ attempt.Torn) :
    bytesTaken attempts = (eventsTaken attempts).flatMap Event.bytes := by
  induction attempts with
  | nil => rfl
  | cons attempt attempts inductionHypothesis =>
    obtain ⟨first, others⟩ := List.forall_mem_cons.mp intact
    rw [bytesTaken_cons, inductionHypothesis others, eventsTaken_cons]
    rcases attempt.whole_or_nothing_or_torn with whole | ⟨nothing, part⟩ | torn
    · rw [if_pos whole, List.flatMap_cons, show attempt.taken = attempt.event.bytes from whole]
    · rw [if_neg part, nothing, List.nil_append]
    · exact absurd torn first

/-- Where nothing was taken, there are neither bytes nor events. -/
theorem taken_of_nothing (nothing : ∀ attempt ∈ attempts, attempt.taken = []) :
    bytesTaken attempts = [] ∧ eventsTaken attempts = [] := by
  constructor
  · exact List.flatMap_eq_nil_iff.mpr nothing
  · rw [eventsTaken, wholeEvents, List.map_eq_nil_iff, List.filter_eq_nil_iff]
    intro outcome member
    obtain ⟨attempt, inside, rfl⟩ := List.mem_map.mp member
    simpa [Attempt.outcome] using Attempt.not_whole_of_nothing (nothing attempt inside)

/-- A torn record can only be read as one that ends too early. -/
theorem Attempt.Torn.breaks {attempt : Attempt} (torn : attempt.Torn)
    (recordable : attempt.event.Recordable) : Breaks attempt.taken .truncated := by
  have cut := List.prefix_iff_eq_take.mp attempt.isPrefix
  rw [cut]
  refine recordable.isRecord.breaks_take (List.length_pos_iff.mpr torn.1) ?_
  refine Nat.lt_of_le_of_ne attempt.isPrefix.length_le fun same => torn.2 ?_
  rw [same, List.take_length] at cut
  exact cut

/-- Whole records and a part of one more read as the events of the whole ones, and end without an
error or too early. -/
theorem reads_with_part {events : List Event} (recordable : ∀ event ∈ events, event.Recordable)
    {attempt : Attempt} (last : attempt.event.Recordable) (part : ¬ attempt.Whole) :
    ∃ ending, Reads (bytesOfEvents events ++ attempt.taken) events ending ∧
      (ending = none ∨ ending = some .truncated) := by
  rw [bytesOfEvents, List.append_assoc]
  rcases attempt.whole_or_nothing_or_torn with whole | ⟨nothing, -⟩ | torn
  · exact absurd whole part
  · have divides : Divides (events.flatMap Event.bytes ++ attempt.taken) events [] none :=
      ⟨recordable, by rw [nothing], .clean⟩
    exact ⟨none, divides.reads, .inl rfl⟩
  · have divides : Divides (events.flatMap Event.bytes ++ attempt.taken) events attempt.taken
        (some .truncated) := ⟨recordable, rfl, .broken (torn.breaks last)⟩
    exact ⟨some .truncated, divides.reads, .inr rfl⟩

/-- What a trace of such records ends with: nothing more, or a torn record. -/
inductive Tail (attempts : List Attempt) : Bytes → Option ReadError → Prop
  | intact (whole : ∀ attempt ∈ attempts, ¬ attempt.Torn) : Tail attempts [] none
  | torn {attempt : Attempt} (member : attempt ∈ attempts) (torn : attempt.Torn) :
    Tail attempts attempt.taken (some .truncated)

/-- A first record that is not torn does not change the end. -/
theorem Tail.cons {attempt : Attempt} (sound : ¬ attempt.Torn) {left : Bytes}
    {ending : Option ReadError} (tail : Tail attempts left ending) :
    Tail (attempt :: attempts) left ending := by
  cases tail with
  | intact whole => exact .intact (List.forall_mem_cons.mpr ⟨sound, whole⟩)
  | torn member torn => exact .torn (List.mem_cons_of_mem _ member) torn

/-- Where nothing is stored behind a torn record, the bytes are those of the events and the torn
record, if there is one. Induct along the records: behind a torn one there is nothing, so it is what
is left. -/
theorem divides_of_orderly (recordable : ∀ attempt ∈ attempts, attempt.event.Recordable)
    (orderly : Orderly attempts) :
    ∃ left ending, Divides (bytesTaken attempts) (eventsTaken attempts) left ending ∧
      Tail attempts left ending := by
  induction attempts with
  | nil => exact ⟨[], none, ⟨nofun, rfl, .clean⟩, .intact nofun⟩
  | cons attempt attempts inductionHypothesis =>
    obtain ⟨first, others⟩ := List.forall_mem_cons.mp recordable
    obtain ⟨behind, later⟩ := List.pairwise_cons.mp orderly
    obtain ⟨left, ending, divides, tail⟩ := inductionHypothesis others later
    rw [bytesTaken_cons, eventsTaken_cons]
    rcases attempt.whole_or_nothing_or_torn with whole | ⟨nothing, part⟩ | torn
    · rw [if_pos whole, show attempt.taken = attempt.event.bytes from whole]
      exact ⟨left, ending, divides.cons first, tail.cons fun torn => torn.2 whole⟩
    · rw [if_neg part, nothing, List.nil_append]
      exact ⟨left, ending, divides, tail.cons fun torn => torn.1 nothing⟩
    · obtain ⟨noBytes, noEvents⟩ := taken_of_nothing fun other member => behind other member torn
      rw [noBytes, List.append_nil, if_neg torn.2, noEvents]
      exact ⟨attempt.taken, some .truncated, ⟨nofun, rfl, .broken (torn.breaks first)⟩,
        .torn List.mem_cons_self torn⟩

/-- A reader hands out all events that were taken before the first torn record. -/
theorem events_before_torn (recordable : ∀ attempt ∈ attempts, attempt.event.Recordable)
    {events : List Event} {left : Bytes} {ending : Option ReadError}
    (divides : Divides (bytesTaken attempts) events left ending) {before after : List Attempt}
    (parts : attempts = before ++ after) (intact : ∀ attempt ∈ before, ¬ attempt.Torn) :
    eventsTaken before <+: events := by
  subst parts
  have beforeRecordable : ∀ event ∈ eventsTaken before, event.Recordable := by
    intro event taken
    obtain ⟨attempt, member, rfl⟩ := exists_of_mem_eventsTaken taken
    exact recordable attempt (List.mem_append_left _ member)
  have bytes : bytesTaken (before ++ after) =
      (eventsTaken before).flatMap Event.bytes ++ bytesTaken after := by
    rw [← bytesTaken_of_intact intact, bytesTaken, bytesTaken, bytesTaken, List.flatMap_append]
  exact divides.events_prefix beforeRecordable bytes

/-- The tag of one frame in front of the record of another is not read as the other frame: the last
byte of its rate, which is zero, stands where the channels would. -/
theorem breaks_tag_frame {tag : UInt8} (isFrame : IsFrameTag tag) (other : UInt8) {frame : Frame}
    (moderate : (frame.rate >>> 24).toUInt8 = 0) :
    Breaks (tag :: frameBytes other frame) .noChannels := by
  rw [frameBytes_eq, moderate]
  exact .noChannels _ _ _ _ _ _ _ isFrame

/-- A write stores nothing. -/
def Reception.Fails (reception : Reception) : Prop := ∀ room, reception.uptake ≠ .stores (room + 1)

/-- The sink stores nothing more, however often it is tried. -/
def Sink.Exhausted (sink : Sink) : Prop :=
  ∀ attempts ≥ sink.attempts, (sink.reception attempts sink.stored.size).Fails

/-- Behind a write that fails there are only writes that fail. -/
def Sink.FailsForGood (sink : Sink) : Prop :=
  ∀ attempts stored, (sink.reception attempts stored).Fails →
    ∀ later ≥ attempts, (sink.reception later stored).Fails

/-- A sink that fails for good is exhausted once it did not take something. -/
theorem Sink.FailsForGood.exhausted {sink : Sink} (forGood : sink.FailsForGood) {offered : Bytes}
    (failed : (sink.writeAll offered).1 ≠ none) : (sink.writeAll offered).2.Exhausted := by
  fun_induction Sink.writeAll sink offered with
  | case1 sink => exact absurd rfl failed
  | case2 sink byte others reception attempts text given =>
    intro later after
    have fails : reception.Fails := by
      intro room stores
      cases given.symm.trans stores
    exact forGood sink.attempts _ fails later
      (Nat.le_trans (Nat.le_add_right_of_le (Nat.le_add_right _ _)) after)
  | case3 sink byte others reception attempts given =>
    intro later after
    have fails : reception.Fails := by
      intro room stores
      cases given.symm.trans stores
    exact forGood sink.attempts _ fails later
      (Nat.le_trans (Nat.le_add_right_of_le (Nat.le_add_right _ _)) after)
  | case4 sink byte others reception attempts room given inductionHypothesis =>
    exact inductionHypothesis forGood failed

/-- An exhausted sink stays exhausted and stores nothing of what it is offered. -/
theorem Sink.Exhausted.writeAll {sink : Sink} (exhausted : sink.Exhausted) (offered : Bytes) :
    (sink.writeAll offered).2.Exhausted ∧ (sink.writeAll offered).2.bytes = sink.bytes := by
  fun_cases Sink.writeAll sink offered with
  | case1 => exact ⟨exhausted, rfl⟩
  | case2 byte others reception attempts text given =>
    exact ⟨fun later after => exhausted later
      (Nat.le_trans (Nat.le_add_right_of_le (Nat.le_add_right _ _)) after), rfl⟩
  | case3 byte others reception attempts given =>
    exact ⟨fun later after => exhausted later
      (Nat.le_trans (Nat.le_add_right_of_le (Nat.le_add_right _ _)) after), rfl⟩
  | case4 byte others reception attempts room given =>
    exact absurd given (exhausted sink.attempts (Nat.le_refl _) room)

/-- A sink that is full stays full. -/
theorem Sink.failsForGood_limited (capacity : Nat) : (limited capacity).FailsForGood :=
  fun _ _ fails _ _ => fails

/-- What became of a sink that was offered a trace, record after record. -/
structure Sink.Tried (sink written : Sink) (attempts : List Attempt) : Prop where
  extended : sink.Extended written (magic ++ bytesTaken attempts)
  recordable : ∀ attempt ∈ attempts, attempt.event.Recordable
  orderly : sink.FailsForGood → Orderly attempts
  exhausted : sink.FailsForGood → (∃ attempt ∈ attempts, ¬ attempt.Whole) → written.Exhausted

/-- One more record that is offered. What the sink takes of it is nothing, if it fails for good and
did not take an earlier record as a whole. -/
theorem Sink.Tried.writeAll {sink written : Sink} (tried : sink.Tried written attempts)
    {event : Event} (recordable : event.Recordable) :
    ∃ attempt : Attempt, attempt.event = event ∧
      (attempt.Whole ↔ (written.writeAll event.bytes).1 = none) ∧
      sink.Tried (written.writeAll event.bytes).2 (attempts ++ [attempt]) := by
  obtain ⟨piece, isPrefix, extended, complete⟩ := written.extended_writeAll event.bytes
  have nothing (exhausted : written.Exhausted) : piece = [] := by
    have bytes := extended.bytes
    rw [(exhausted.writeAll event.bytes).2] at bytes
    exact List.self_eq_append_right.mp bytes
  have stillForGood (forGood : sink.FailsForGood) : written.FailsForGood := by
    rw [FailsForGood, tried.extended.reception]
    exact forGood
  refine ⟨⟨event, piece, isPrefix⟩, rfl, complete.symm, ?_, ?_, ?_, ?_⟩
  · rw [bytesTaken, List.flatMap_append, List.flatMap_singleton, ← List.append_assoc]
    exact tried.extended.trans extended
  · rw [List.forall_mem_append]
    exact ⟨tried.recordable, List.forall_mem_singleton.mpr recordable⟩
  · intro forGood
    refine List.pairwise_append.mpr ⟨tried.orderly forGood, List.pairwise_singleton _ _, ?_⟩
    intro earlier member later isLater torn
    rw [List.mem_singleton.mp isLater]
    exact nothing (tried.exhausted forGood ⟨earlier, member, torn.2⟩)
  · rintro forGood ⟨attempt, member, part⟩
    rcases List.mem_append.mp member with earlier | last
    · exact ((tried.exhausted forGood ⟨attempt, earlier, part⟩).writeAll event.bytes).1
    · rw [List.mem_singleton.mp last] at part
      exact (stillForGood forGood).exhausted (mt complete.mp part)

/-- A recording that began was offered the record of the start, and its sink took the magic line. -/
theorem Recorder.tried_start {sink : Sink} {rate : UInt32} {recorder : Recorder}
    (began : (start sink rate recorder).state.isOpen = true) :
    ∃ attempt written, (start sink rate recorder).state.sink = some written ∧
      attempt.outcome =
        (.started rate.toInt32, !isFileFault (start sink rate recorder).result) ∧
      sink.Tried written [attempt] := by
  obtain ⟨state, result⟩ := start_spec sink rate recorder
  rw [state] at began ⊢
  split at began
  case isFalse => cases began
  case isTrue headed =>
    obtain ⟨flushes, header⟩ := headed
    obtain ⟨line, -, extended, complete⟩ := sink.extended_writeAll magic
    obtain rfl : line = magic := complete.mp header
    have offered : sink.Tried (sink.writeAll magic).2 [] :=
      ⟨by simpa [bytesTaken] using extended, nofun, fun _ => List.Pairwise.nil, fun _ => nofun⟩
    have recordable : (Event.started rate.toInt32).Recordable := trivial
    obtain ⟨attempt, event, whole, tried⟩ := offered.writeAll recordable
    rw [if_pos ⟨flushes, header⟩]
    refine ⟨attempt, _, rfl, ?_, tried⟩
    have complete : decide attempt.Whole = decide (recorder.Flushes ∧
        (sink.writeAll magic).1 = none ∧
        ((sink.writeAll magic).2.writeAll (Event.started rate.toInt32).bytes).1 = none) := by
      rw [decide_eq_decide, whole, and_iff_right flushes, and_iff_right header]
    rw [Attempt.outcome, event, result, isFileFault_ite, Bool.not_not, complete]

end Trace

namespace Engine

variable {engine : Engine} {call : Call}

/-- What a call adds to a recording, and whether it did not fail to record it. -/
def outcome? (engine : Engine) (call : Call) : Option (Trace.Event × Bool) :=
  (call.event? engine.format).map fun event => (event, !isFileFault (engine.perform call).result)

/-- What a run adds to a recording. -/
def outcomes (engine : Engine) : List Call → List (Trace.Event × Bool)
  | [] => []
  | call :: calls => (engine.outcome? call).toList ++ outcomes (engine.perform call).state calls

/-- Taking in a matching captured frame fails because of a file exactly when recording it does. -/
theorem isFileFault_capture {frame : Frame}
    (matching : engine.frameFault engine.format.inputChannels frame = none) :
    isFileFault (engine.capture frame).1.result =
      isFileFault (Trace.Recorder.recordFrame .captured frame engine.recorder).result := by
  have same : (recording (Trace.Recorder.recordFrame .captured frame) engine).result =
      (Trace.Recorder.recordFrame .captured frame engine.recorder).result := rfl
  rw [← same]
  simp only [capture, matching]
  cases recorded : (recording (Trace.Recorder.recordFrame .captured frame) engine).result with
  | error fault => exact congrArg isFileFault recorded
  | ok answer =>
    dsimp only
    generalize (recording (Trace.Recorder.recordFrame .captured frame) engine).state = behind
    cases processed : (behind.process frame).1.result with
    | ok answer => rfl
    | error fault =>
      obtain ⟨stage, refused⟩ := exists_refusal_of_process_error processed
      rcases CaptureStage.fault_of_refusal refused with rfl | rfl <;> rfl

/-- Taking in a matching frame to the loudspeaker fails because of a file exactly when recording it
does. -/
theorem isFileFault_render {frame : Frame}
    (matching : engine.frameFault engine.format.reverseChannels frame = none) :
    isFileFault (render frame engine).result =
      isFileFault (Trace.Recorder.recordFrame .rendered frame engine.recorder).result := by
  have same : (recording (Trace.Recorder.recordFrame .rendered frame) engine).result =
      (Trace.Recorder.recordFrame .rendered frame engine.recorder).result := rfl
  rw [← same]
  simp only [render, matching]
  cases recorded : (recording (Trace.Recorder.recordFrame .rendered frame) engine).result with
  | error fault => exact congrArg isFileFault recorded
  | ok answer =>
    dsimp only
    generalize (recording (Trace.Recorder.recordFrame .rendered frame) engine).state = behind
    cases observed : (behind.observe frame).result with
    | ok answer => rfl
    | error fault =>
      rw [fault_of_observe_error observed]
      rfl

/-- A call that adds something to a recording fails because of a file exactly when it cannot write
the record. -/
theorem isFileFault_perform {event : Trace.Event} (adds : call.event? engine.format = some event)
    (recordable : event.Recordable) :
    isFileFault (engine.perform call).result =
      isFileFault (Trace.Recorder.write event.bytes engine.recorder).result := by
  cases call with
  | capture frame =>
    obtain ⟨matching, same⟩ := Option.ite_none_right_eq_some.mp adds
    cases same
    have fits : Trace.FitsRecord frame := recordable
    rw [← Trace.Recorder.recordFrame_eq_write _ fits.recordFault,
      ← isFileFault_capture (frameFault_eq_none_iff.mpr matching)]
    exact isFileFault_map _ _
  | render frame =>
    obtain ⟨matching, same⟩ := Option.ite_none_right_eq_some.mp adds
    cases same
    have fits : Trace.FitsRecord frame := recordable
    rw [← Trace.Recorder.recordFrame_eq_write _ fits.recordFault,
      ← isFileFault_render (frameFault_eq_none_iff.mpr matching)]
    exact isFileFault_map _ _
  | _ => cases adds

/-- A call that adds something to a recording offers its record to the sink, and fails because of a
file exactly when the sink does not take the whole. -/
theorem perform_of_event (stored : engine.Stored) (wellFormed : call.WellFormed)
    {event : Trace.Event} (adds : call.event? engine.format = some event) {sink : Trace.Sink}
    (current : engine.recorder.sink = some sink) :
    (engine.perform call).state.recorder = { sink := some (sink.writeAll event.bytes).2 } ∧
      (isFileFault (engine.perform call).result = true ↔
        (sink.writeAll event.bytes).1 ≠ none) := by
  have going : ¬ call.EndsRecording := fun ends => by
    cases call <;> first | cases adds | cases ends
  have recordable := recordable_of_event stored wellFormed adds
  obtain ⟨state, result⟩ := Trace.Recorder.write_spec current event.bytes
  constructor
  · rw [recorder_perform stored wellFormed going, adds]
    exact state
  · rw [isFileFault_perform adds recordable, result, isFileFault_ite, Bool.not_eq_true',
      decide_eq_false_iff_not]

/-- A call that does not end the recording offers what it adds to the sink. -/
theorem tried_perform (stored : engine.Stored) (wellFormed : call.WellFormed)
    (going : ¬ call.EndsRecording) {sink written : Trace.Sink} {attempts : List Trace.Attempt}
    (current : engine.recorder.sink = some written) (tried : sink.Tried written attempts) :
    ∃ more next, more.map Trace.Attempt.outcome = (engine.outcome? call).toList ∧
      (engine.perform call).state.recorder.sink = some next ∧
      sink.Tried next (attempts ++ more) := by
  rw [outcome?]
  cases adds : call.event? engine.format with
  | none =>
    rw [recorder_perform stored wellFormed going, adds]
    exact ⟨[], written, rfl, current, by rwa [List.append_nil]⟩
  | some event =>
    obtain ⟨attempt, same, whole, next⟩ :=
      tried.writeAll (recordable_of_event stored wellFormed adds)
    obtain ⟨recorder, failed⟩ := perform_of_event stored wellFormed adds current
    refine ⟨[attempt], _, ?_, congrArg Trace.Recorder.sink recorder, next⟩
    have kept : decide attempt.Whole = !isFileFault (engine.perform call).result := by
      rw [Bool.eq_iff_iff, decide_eq_true_iff, Bool.not_eq_true', ← Bool.not_eq_true, failed, whole,
        ne_eq, Classical.not_not]
    rw [List.map_singleton, Trace.Attempt.outcome, same, kept]
    rfl

/-- A run that does not end the recording offers what its calls add to the sink. -/
theorem tried_run (stored : engine.Stored) {calls : List Call}
    (wellFormed : ∀ call ∈ calls, call.WellFormed) (going : ∀ call ∈ calls, ¬ call.EndsRecording)
    {sink written : Trace.Sink} {attempts : List Trace.Attempt}
    (current : engine.recorder.sink = some written) (tried : sink.Tried written attempts) :
    ∃ more final, more.map Trace.Attempt.outcome = engine.outcomes calls ∧
      (engine.run calls).2.recorder.sink = some final ∧ sink.Tried final (attempts ++ more) := by
  induction calls generalizing engine written attempts with
  | nil => exact ⟨[], written, rfl, current, by rwa [List.append_nil]⟩
  | cons call calls inductionHypothesis =>
    obtain ⟨firstWellFormed, laterWellFormed⟩ := List.forall_mem_cons.mp wellFormed
    obtain ⟨firstGoing, laterGoing⟩ := List.forall_mem_cons.mp going
    obtain ⟨first, between, firstOutcome, held, afterFirst⟩ :=
      tried_perform stored firstWellFormed firstGoing current tried
    obtain ⟨later, final, laterOutcomes, heldLater, afterAll⟩ :=
      inductionHypothesis (stored.perform firstWellFormed) laterWellFormed laterGoing held
        afterFirst
    refine ⟨first ++ later, final, ?_, heldLater, by rwa [← List.append_assoc]⟩
    rw [List.map_append, firstOutcome, laterOutcomes]
    rfl

/-- A recording that began goes on through every run of calls that do not end it. Its sink then
holds, behind the magic line, a first part of the record of the start and of each frame that matched
the format, in their order: the whole record unless the call failed because of a file.

A reader always hands out the events of the whole records that come before the first torn one. As
long as nothing was stored behind a torn record, and so for every sink that fails for good, it hands
out exactly the events of the calls that did not fail, and then ends without an error, or too early
where the last bytes are those of a torn record. -/
theorem recording_on_failing_sink (engine : Engine) (reached : engine.Reachable)
    (sink : Trace.Sink) (began : (engine.perform (.record sink)).state.isRecording = true)
    (calls : List Call) (wellFormed : ∀ call ∈ calls, call.WellFormed)
    (going : ∀ call ∈ calls, ¬ call.EndsRecording) :
    let start := engine.perform (.record sink)
    let outcomes := (.started engine.format.rate.hz.toInt32, !isFileFault start.result) ::
      start.state.outcomes calls
    ∃ written attempts events ending,
      (start.state.run calls).2.recorder.sink = some written ∧
      written.bytes = sink.bytes ++ (Trace.magic ++ Trace.bytesTaken attempts) ∧
      attempts.map Trace.Attempt.outcome = outcomes ∧
      Trace.Reads (Trace.magic ++ Trace.bytesTaken attempts) events ending ∧
      (∀ before after, attempts = before ++ after → (∀ attempt ∈ before, ¬ attempt.Torn) →
        Trace.eventsTaken before <+: events) ∧
      (sink.FailsForGood → Trace.Orderly attempts) ∧
      (Trace.Orderly attempts → events = Trace.wholeEvents outcomes ∧
        ∃ left, Trace.bytesTaken attempts = events.flatMap Trace.Event.bytes ++ left ∧
          Trace.Tail attempts left ending) := by
  intro start outcomes
  have stored : start.state.Stored := reached.stored.perform trivial
  obtain ⟨first, opened, held, firstOutcome, tried⟩ := Trace.Recorder.tried_start began
  obtain ⟨more, written, laterOutcomes, heldLater, triedAll⟩ :=
    tried_run stored wellFormed going held tried
  obtain ⟨events, left, ending, divides⟩ := Trace.exists_divides (Trace.bytesTaken (first :: more))
  have allOutcomes : (first :: more).map Trace.Attempt.outcome = outcomes := by
    have result : isFileFault start.result = isFileFault
        (Trace.Recorder.start sink engine.format.rate.hz engine.recorder).result :=
      isFileFault_map _ _
    rw [List.map_cons, firstOutcome, laterOutcomes, ← result]
  refine ⟨written, first :: more, events, ending, heldLater, triedAll.extended.bytes, allOutcomes,
    divides.reads, ?_, triedAll.orderly, ?_⟩
  · intro before after parts intact
    exact Trace.events_before_torn triedAll.recordable divides parts intact
  · intro orderly
    obtain ⟨left, reason, exact, tail⟩ := Trace.divides_of_orderly triedAll.recordable orderly
    have same := divides.reads.collected.symm.trans exact.reads.collected
    obtain ⟨rfl, rfl⟩ := Prod.mk.inj (Except.ok.inj same)
    rw [← allOutcomes]
    exact ⟨rfl, left, exact.parts, tail⟩

/-- A frame of silence at the lowest rate. -/
def silence : Frame := .silent 8000 1 80

/-- An engine at the lowest rate. -/
def plain : Engine := ((blank 0 {}).run [.setRate 8000]).2

/-- A sink with room for the magic line, the record of the start and one more byte, once the first
two are stored. -/
def nearlyFull : Trace.Sink :=
  { Trace.Sink.limited 20 with
    attempts := 2
    stored := (Trace.Sink.limited 20).stored ++ Trace.bytesOfEvents [.started 8000] }

/-- The recording begins, and the sink takes one byte of the record of a frame. The trace reads as
the start. -/
theorem recording_on_failing_sink_limited :
    plain.Reachable ∧ (Trace.Sink.limited 20).FailsForGood ∧ silence.WellFormed ∧
      (plain.perform (.record (.limited 20))).state.isRecording = true ∧
      ((plain.perform (.record (.limited 20))).state.perform (.capture silence)).result =
        .error .file ∧
      ∃ written ending,
        ((plain.perform (.record (.limited 20))).state.run [.capture silence]).2.recorder.sink =
          some written ∧
        Trace.Reads written.bytes [.started 8000] ending := by
  have reached : plain.Reachable := ⟨{}, [.setRate 8000], blank 0 {}, rfl, by decide, rfl⟩
  have forGood := Trace.Sink.failsForGood_limited 20
  have wellFormed : silence.WellFormed := Frame.wellFormed_silent 8000 1 80
  have first : (Trace.Sink.limited 20).reception 0 0 = { uptake := .stores 20 } := rfl
  have second : (Trace.Sink.limited 20).reception 1 14 = { uptake := .stores 6 } := rfl
  obtain ⟨begun, answered⟩ :=
    Trace.Recorder.start_of_room first (by decide) second (by decide) 8000
  have held : (plain.perform (.record (.limited 20))).state.recorder.sink = some nearlyFull :=
    congrArg Trace.Recorder.sink begun
  have began : (plain.perform (.record (.limited 20))).state.isRecording = true :=
    congrArg Option.isSome held
  -- The record of the frame does not fit.
  have torn : (nearlyFull.writeAll (Trace.Event.captured silence).bytes).1 =
      some "no space left" := by
    rw [Trace.Event.bytes, Trace.frameBytes_eq, Trace.Sink.writeAll_of_stores rfl,
      List.take_zero, List.drop_zero, Trace.Sink.writeAll_of_fails rfl]
  have adds : (Call.capture silence).event? (plain.perform (.record (.limited 20))).state.format =
      some (.captured silence) := by
    rw [format_perform]
    rfl
  have stored : (plain.perform (.record (.limited 20))).state.Stored :=
    reached.stored.perform trivial
  have callWellFormed : (Call.capture silence).WellFormed := wellFormed
  have failed : isFileFault ((plain.perform (.record (.limited 20))).state.perform
      (.capture silence)).result = true := by
    rw [(perform_of_event stored callWellFormed adds held).2, torn]
    rintro ⟨⟩
  have succeeded : isFileFault (plain.perform (.record (.limited 20))).result = false :=
    (isFileFault_map _ _).trans (congrArg isFileFault answered)
  obtain ⟨written, attempts, events, ending, heldLater, bytes, -, reads, -, orderly, exact⟩ :=
    recording_on_failing_sink plain reached (.limited 20) began [.capture silence]
      (List.forall_mem_singleton.mpr wellFormed) (List.forall_mem_singleton.mpr not_false)
  have events := (exact (orderly forGood)).1
  rw [outcomes, outcome?, adds, Option.map_some, failed, succeeded] at events
  rw [events] at reads
  refine ⟨reached, forGood, wellFormed, began, isFileFault_iff.mp failed, written, ending,
    heldLater, ?_⟩
  rw [bytes]
  exact reads

/-- A sink that fails behind the first byte of the second record that it is offered, and works again
from then on. -/
def stutteringSink : Trace.Sink :=
  .scripted [.stores 14, .stores 5, .stores 1, .fails "disk full"]

/-- The sink with the magic line and the record of the start. -/
def begunSink : Trace.Sink :=
  { stutteringSink with
    attempts := 2
    stored := stutteringSink.stored ++ Trace.bytesOfEvents [.started 8000] }

/-- The sink once it failed. -/
def tornSink : Trace.Sink :=
  { begunSink with attempts := 4, stored := begunSink.stored ++ [Trace.renderedTag] }

/-- The sink once it worked again. -/
def mendedSink : Trace.Sink :=
  { tornSink with
    attempts := 5
    stored := tornSink.stored ++ (Trace.Event.captured silence).bytes }

/-- The sink takes the tag of the second record, and all of the third. -/
theorem writes_stutteringSink :
    begunSink.writeAll (Trace.Event.rendered silence).bytes = (some "disk full", tornSink) ∧
      tornSink.writeAll (Trace.Event.captured silence).bytes = (none, mendedSink) := by
  constructor
  · rw [Trace.Event.bytes, Trace.frameBytes_eq, Trace.Sink.writeAll_of_stores rfl,
      List.take_zero, List.drop_zero, Trace.Sink.writeAll_of_fails rfl]
    rfl
  · have short : (Trace.Event.captured silence).bytes.tail.length ≤ 65535 := by
      rw [Trace.Event.bytes, Trace.frameBytes_eq]
      simp [silence, Frame.silent]
    exact Trace.Sink.writeAll_of_room rfl _ short

/-- An engine that records to it. -/
def stuttering : Engine := ((blank 0 {}).run [.setRate 8000, .record stutteringSink]).2

/-- A torn record hides the next one. The sink takes one byte of the record of a frame to the
loudspeaker and fails, and takes the whole record of a captured frame afterwards. What it holds is
no trace that ends with a part of a record, and it does not read as the captured frame: a reader
takes the first bytes of its record for the header of a frame without channels. -/
theorem torn_record_hides_next :
    let failed := stuttering.perform (.render silence)
    let worked := failed.state.perform (.capture silence)
    stuttering.Reachable ∧ failed.result = .error .file ∧ worked.result ≠ .error .file ∧
      worked.state.recorder.sink = some mendedSink ∧
      Trace.Reads mendedSink.bytes [.started 8000] (some .noChannels) ∧
      (∀ ending, ¬ Trace.Reads mendedSink.bytes [.started 8000, .captured silence] ending) ∧
      ∀ events, (∀ event ∈ events, event.Recordable) → ∀ last : Trace.Attempt,
        last.event.Recordable → ¬ last.Whole →
          mendedSink.bytes ≠ Trace.bytesOfEvents events ++ last.taken := by
  intro failed worked
  have reached : stuttering.Reachable :=
    ⟨{}, [.setRate 8000, .record stutteringSink], blank 0 {}, rfl, by decide, rfl⟩
  have wellFormed : silence.WellFormed := Frame.wellFormed_silent 8000 1 80
  have begun : stuttering.recorder.sink = some begunSink :=
    congrArg Trace.Recorder.sink
      (Trace.Recorder.start_of_room rfl (Nat.le_refl 13) rfl (Nat.le_refl 4) 8000).1
  obtain ⟨torn, mended⟩ := writes_stutteringSink
  -- The frame to the loudspeaker leaves its tag.
  have renderWellFormed : (Call.render silence).WellFormed := wellFormed
  have renderAdds : (Call.render silence).event? stuttering.format = some (.rendered silence) := rfl
  obtain ⟨failedRecorder, failedResult⟩ :=
    perform_of_event reached.stored renderWellFormed renderAdds begun
  rw [torn] at failedRecorder failedResult
  -- The captured frame leaves its whole record behind it.
  have captureWellFormed : (Call.capture silence).WellFormed := wellFormed
  have captureAdds : (Call.capture silence).event? failed.state.format =
      some (.captured silence) := by
    rw [format_perform]
    rfl
  obtain ⟨workedRecorder, workedResult⟩ :=
    perform_of_event (reached.stored.perform renderWellFormed) captureWellFormed captureAdds
      (congrArg Trace.Recorder.sink failedRecorder)
  rw [mended] at workedRecorder workedResult
  -- A reader finds no channels behind the tag.
  have bytes : mendedSink.bytes = Trace.magic ++ ((Trace.Event.started 8000).bytes ++
      Trace.renderedTag :: (Trace.Event.captured silence).bytes) := by
    simp [Trace.Sink.bytes, mendedSink, tornSink, begunSink, stutteringSink, Trace.Sink.scripted,
      Trace.bytesOfEvents]
  have divides : Trace.Divides ((Trace.Event.started 8000).bytes ++
      Trace.renderedTag :: (Trace.Event.captured silence).bytes) [.started 8000]
      (Trace.renderedTag :: (Trace.Event.captured silence).bytes) (some .noChannels) :=
    ⟨List.forall_mem_singleton.mpr trivial, by simp,
      .broken (Trace.breaks_tag_frame (.inl rfl) _ rfl)⟩
  have reads : Trace.Reads mendedSink.bytes [.started 8000] (some .noChannels) := by
    rw [bytes]
    exact divides.reads
  refine ⟨reached, isFileFault_iff.mp (failedResult.mpr (by simp)), fun fault => ?_,
    congrArg Trace.Recorder.sink workedRecorder, reads, ?_, ?_⟩
  · exact workedResult.mp (isFileFault_iff.mpr fault) rfl
  · intro ending others
    cases reads.collected.symm.trans others.collected
  · intro events recordable last lastRecordable part same
    obtain ⟨ending, others, clean | early⟩ :=
      Trace.reads_with_part recordable lastRecordable part
    · rw [← same, clean] at others
      cases reads.collected.symm.trans others.collected
    · rw [← same, early] at others
      cases reads.collected.symm.trans others.collected

end Engine

end VoiceEngine
