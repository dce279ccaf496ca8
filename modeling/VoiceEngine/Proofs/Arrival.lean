import Mathlib.Data.List.Basic
import VoiceEngine.Proofs.Parsing

/-!
# How a trace arrives

A source may deliver its bytes in pieces of any size, be interrupted between them, and fail once
they have been delivered. Two sources are read side by side here: one ends in a way of its own, the
other delivers the same bytes and then the end of the input. Every read keeps them side by side or
meets the ending of the first, so the first one gives the records of the second up to there.

With the end of the input for an ending, nothing tells the two apart, not even a caller that goes on
after errors. With a failure, the trace reads as the records that are whole before it.
-/

namespace VoiceEngine.Trace

variable {source other : Source} {ending : Option ReadFault}

/-- A source yields the bytes that another delivers, and then an ending. -/
def Source.Follows (source : Source) (ending : Option ReadFault) (other : Source) : Prop :=
  ∃ bytes, source.Yields bytes ending ∧ other.Delivers bytes

/-- The error that stands for another when the input does not end but meets an ending. Only an input
that ends too early is told from one that goes on. -/
def ReadError.inPlace (ending : Option ReadFault) : ReadError → ReadError
  | truncated => ofRecordFault (ending.getD .short)
  | error => error

/-- Two answers with what they leave, the first from a source that follows the source of the second.
The first is the second with the ending in place of an input that ends too early, and unless it met
the ending, the sources stay side by side. -/
structure Alongside {Answer : Type} (ending : Option ReadFault)
    (first second : Except ReadError Answer × Source) : Prop where
  answer : first.1 = second.1.mapError (.inPlace ending)
  stays : ending = none ∨ second.1 ≠ .error .truncated → first.2.Follows ending second.2

/-- An exact read gives the same bytes from either source, or meets the ending of either. -/
theorem Source.Follows.readExactly (follows : source.Follows ending other) (count : Nat) :
    ∃ after otherAfter,
      (∃ bytes, bytes.length = count ∧ source.readExactly count = (.ok bytes, after) ∧
        other.readExactly count = (.ok bytes, otherAfter) ∧ after.Follows ending otherAfter) ∨
      source.readExactly count = (.error (ending.getD .short), after) ∧
        other.readExactly count = (.error .short, otherAfter) ∧
        (ending = none → after.Follows ending otherAfter) := by
  obtain ⟨bytes, yields, delivers⟩ := follows
  obtain ⟨after, answer, stays⟩ := yields.readMore [] count
  obtain ⟨otherAfter, delivered, otherAnswer⟩ := delivers.readMore [] count
  refine ⟨after, otherAfter, ?_⟩
  by_cases enough : count ≤ bytes.length
  · rw [if_pos enough] at answer otherAnswer
    exact .inl ⟨_, by simp [enough], answer, otherAnswer, _, stays (.inl enough), delivered⟩
  · rw [if_neg enough] at answer otherAnswer
    exact .inr ⟨answer, otherAnswer, fun ends => ⟨_, stays (.inr ends), delivered⟩⟩

section Answers

variable {Answer Other : Type} {after otherAfter : Source}

/-- The same answer from either source, other than that the input ends too early. -/
theorem Alongside.same (answer : Except ReadError Answer)
    (unchanged : answer.mapError (.inPlace ending) = answer)
    (follows : after.Follows ending otherAfter) :
    Alongside ending (answer, after) (answer, otherAfter) :=
  ⟨unchanged.symm, fun _ => follows⟩

/-- Exact reads that meet the ending of either source. -/
theorem Alongside.short (stays : ending = none → after.Follows ending otherAfter) :
    Alongside ending
      ((.error (.ofRecordFault (ending.getD .short)) : Except ReadError Answer), after)
      (.error (.ofRecordFault .short), otherAfter) :=
  ⟨rfl, fun goesOn => stays (goesOn.resolve_right (· rfl))⟩

/-- What is made of both answers in the same way stays alongside. -/
theorem Alongside.map {first second : Except ReadError Answer × Source}
    (alongside : Alongside ending first second) (change : Answer → Other) :
    Alongside ending (first.1.map change, first.2) (second.1.map change, second.2) := by
  obtain ⟨answer, stays⟩ := alongside
  refine ⟨?_, fun goesOn => stays (goesOn.imp_right ?_)⟩
  · dsimp only
    rw [answer]
    cases second.1 <;> rfl
  · rintro failed early
    exact failed (by dsimp only; rw [early]; rfl)

end Answers

/-- Seven bytes, one by one. -/
theorem exists_of_seven_bytes {bytes : Bytes} (length : bytes.length = 7) :
    ∃ first second third fourth channels low high,
      bytes = [first, second, third, fourth, channels, low, high] :=
  match bytes, length with
  | [first, second, third, fourth, channels, low, high], _ =>
    ⟨first, second, third, fourth, channels, low, high, rfl⟩

/-- What follows the tag of a start is read alongside. -/
theorem alongside_readStarted (follows : source.Follows ending other) :
    Alongside ending (readStarted source) (readStarted other) := by
  rw [readStarted, readStarted]
  obtain ⟨after, otherAfter, ⟨bytes, length, answer, otherAnswer, later⟩ |
    ⟨answer, otherAnswer, stays⟩⟩ := follows.readExactly 4
  · rw [answer, otherAnswer]
    obtain ⟨first, second, third, fourth, rfl⟩ := List.length_eq_four.mp length
    exact .same _ rfl later
  · rw [answer, otherAnswer]
    exact .short stays

/-- The samples of a frame are read alongside. -/
theorem alongside_readSamples (rate : UInt32) (channelCount length : Nat)
    (follows : source.Follows ending other) :
    Alongside ending (readSamples rate channelCount length source)
      (readSamples rate channelCount length other) := by
  rw [readSamples, readSamples]
  split
  · exact .same _ rfl follows
  · obtain ⟨after, otherAfter, ⟨bytes, -, answer, otherAnswer, later⟩ |
      ⟨answer, otherAnswer, stays⟩⟩ := follows.readExactly (2 * channelCount * length)
    · rw [answer, otherAnswer]
      dsimp only
      split <;> exact .same _ rfl later
    · rw [answer, otherAnswer]
      exact .short stays

/-- What follows the tag of a frame is read alongside. -/
theorem alongside_readFrame (follows : source.Follows ending other) :
    Alongside ending (readFrame source) (readFrame other) := by
  rw [readFrame, readFrame]
  obtain ⟨after, otherAfter, ⟨bytes, length, answer, otherAnswer, later⟩ |
    ⟨answer, otherAnswer, stays⟩⟩ := follows.readExactly 7
  · rw [answer, otherAnswer]
    obtain ⟨first, second, third, fourth, channels, low, high, rfl⟩ := exists_of_seven_bytes length
    exact alongside_readSamples _ _ _ later
  · rw [answer, otherAnswer]
    exact .short stays

/-- What follows a tag is read alongside. -/
theorem alongside_readTagged (tag : UInt8) (follows : source.Follows ending other) :
    Alongside ending (readTagged tag source) (readTagged tag other) := by
  simp only [readTagged]
  split
  · exact alongside_readStarted follows
  · split
    · exact (alongside_readFrame follows).map Event.rendered
    · split
      · exact (alongside_readFrame follows).map Event.captured
      · exact .same _ rfl follows

/-- Where bytes are left, a record is read alongside. -/
theorem alongside_readEvent {bytes : Bytes} (yields : source.Yields bytes ending)
    (delivers : other.Delivers bytes) (given : bytes ≠ []) :
    Alongside ending (readEvent source) (readEvent other) := by
  obtain ⟨tag, bytes, rfl⟩ := List.exists_cons_of_ne_nil given
  rw [readEvent, readEvent]
  obtain ⟨otherAfter, otherAnswer, delivered⟩ := delivers.read_one
  rcases yields.read Nat.one_pos with ⟨got, rest, after, answer, given, parts, later, few⟩ |
    ⟨none, -⟩
  · obtain ⟨first, rfl⟩ :=
      List.length_eq_one_iff.mp (Nat.le_antisymm few (List.length_pos_iff.mpr given))
    obtain ⟨rfl, rfl⟩ := List.cons.inj parts
    rw [answer, otherAnswer]
    exact (alongside_readTagged tag ⟨bytes, later, delivered⟩).map some
  · cases none

/-- A failure where a record would begin is the answer, whatever its kind. -/
theorem readEvent_failed {fault : ReadFault} (fails : source.FailsBehind [] fault) :
    (readEvent source).1 = .error (.failed fault.text) := by
  rcases fails.yields.read Nat.one_pos with
    ⟨got, rest, after, -, given, parts, -⟩ | ⟨-, after, answer, -⟩
  · exact absurd (List.append_eq_nil_iff.mp parts.symm).1 given
  · rw [readEvent, answer]
    rfl

/-- Sources that deliver the same bytes give the same record, or the same error, and go on
delivering the same bytes. -/
theorem Source.Follows.readEvent (follows : source.Follows none other) :
    (Trace.readEvent source).1 = (Trace.readEvent other).1 ∧
      (Trace.readEvent source).2.Follows none (Trace.readEvent other).2 := by
  obtain ⟨bytes, yields, delivers⟩ := follows
  cases bytes with
  | nil =>
    obtain ⟨after, answer, later⟩ := readEvent_end (show source.Delivers [] from yields)
    obtain ⟨otherAfter, otherAnswer, otherLater⟩ := readEvent_end delivers
    rw [answer, otherAnswer]
    exact ⟨rfl, [], later, otherLater⟩
  | cons tag bytes =>
    obtain ⟨answer, stays⟩ := alongside_readEvent yields delivers (List.cons_ne_nil tag bytes)
    refine ⟨answer.trans ?_, stays (.inl rfl)⟩
    rcases (Trace.readEvent other).1 with error | event
    · cases error <;> rfl
    · rfl

/-- How a caller asks a reader: for its next event, of which there is none behind an error, or for
the next record, wherever its source stands. -/
inductive Asking
  | event
  | record

/-- The answer to a caller, as a reader hands it out. -/
def handedOut : Except ReadError (Option Event) → Option (Except ReadError Event)
  | .ok none => none
  | .ok (some event) => some (.ok event)
  | .error error => some (.error error)

namespace Reader

/-- What a reader answers, and the reader afterwards. -/
def ask (reader : Reader) : Asking → Option (Except ReadError Event) × Reader
  | .event => reader.next
  | .record =>
    let (answer, source) := readEvent reader.source
    (handedOut answer, { reader with source })

/-- What a reader answers to a caller who asks again and again, also behind errors. -/
def converse (reader : Reader) : List Asking → List (Option (Except ReadError Event))
  | [] => []
  | asking :: askings =>
    let (answer, after) := reader.ask asking
    answer :: converse after askings

/-- The next event of a reader that met no error, by what its source gives. -/
theorem next_eq (source : Source) :
    next { source } = (handedOut (readEvent source).1,
      { source := (readEvent source).2
        failed := match (readEvent source).1 with
          | .ok _ => false
          | .error _ => true }) := by
  rw [next, if_neg Bool.false_ne_true]
  rcases readEvent source with ⟨error | _ | event, after⟩ <;> rfl

/-- Readers side by side give the same answer and stay side by side. -/
theorem ask_follows {reader other : Reader} (follows : reader.source.Follows none other.source)
    (same : reader.failed = other.failed) (asking : Asking) :
    (reader.ask asking).1 = (other.ask asking).1 ∧
      (reader.ask asking).2.source.Follows none (other.ask asking).2.source ∧
      (reader.ask asking).2.failed = (other.ask asking).2.failed := by
  obtain ⟨source, failed⟩ := reader
  obtain ⟨otherSource, otherFailed⟩ := other
  dsimp only at follows same
  subst same
  obtain ⟨answer, later⟩ := follows.readEvent
  cases asking with
  | record =>
    simp only [ask]
    exact ⟨by rw [answer], later, trivial⟩
  | event =>
    simp only [ask]
    cases failed with
    | true => exact ⟨rfl, follows, rfl⟩
    | false =>
      rw [next_eq, next_eq]
      dsimp only
      rw [answer]
      exact ⟨rfl, later, rfl⟩

/-- Readers side by side give the same answers to every caller. -/
theorem converse_follows {reader other : Reader} (follows : reader.source.Follows none other.source)
    (same : reader.failed = other.failed) (askings : List Asking) :
    reader.converse askings = other.converse askings := by
  induction askings generalizing reader other with
  | nil => rfl
  | cons asking askings inductionHypothesis =>
    obtain ⟨answer, later, failed⟩ := ask_follows follows same asking
    rw [converse, converse]
    dsimp only
    rw [answer, inductionHypothesis later failed]

end Reader

/-- A source that yields the magic line first is opened behind it. -/
theorem openTrace_yields {rest : Bytes} (yields : source.Yields (magic ++ rest) ending) :
    ∃ after, openTrace source = .ok after ∧ after.Yields rest ending := by
  obtain ⟨after, answer, stays⟩ := yields.readMore [] magic.length
  have enough : magic.length ≤ (magic ++ rest).length := by simp
  rw [if_pos enough, List.take_left, List.reverse_nil, List.nil_append] at answer
  have later := stays (.inl enough)
  rw [List.drop_left] at later
  refine ⟨after, ?_, later⟩
  rw [openTrace, Source.readExactly, answer]
  exact if_pos rfl

/-- A source that fails inside the magic line is refused. -/
theorem openTrace_failed {bytes : Bytes} {fault : ReadFault}
    (fails : source.FailsBehind bytes fault)
    (short : bytes.length < magic.length) :
    openTrace source = .error (.ofMagicFault fault) := by
  obtain ⟨after, answer, -⟩ := fails.yields.readMore [] magic.length
  rw [if_neg (Nat.not_le.mpr short)] at answer
  rw [openTrace, Source.readExactly, answer]
  rfl

/-- The error at a failure, by how reading ends when the input ends there: the failure itself where
a record would begin, and what it means inside a record where one is not whole. -/
def ReadError.atFailure (fault : ReadFault) : Option ReadError → ReadError
  | none => failed fault.text
  | some error => error.inPlace (some fault)

/-- A reader whose source fails gives the events of the records in front, then the error at the
failure, and then nothing.

Proof: the induction is on the events. Up to the failure the source is compared with one that holds
the same bytes in memory, of which it is known already how it is read. -/
theorem Divides.call_failing {rest : Bytes} {events : List Event} {left : Bytes}
    {ends : Option ReadError} (divides : Divides rest events left ends) {fault : ReadFault}
    (fails : source.FailsBehind rest fault) (number : Nat) :
    Reader.call number { source } =
      (answers events (some (.atFailure fault ends)))[number]? := by
  obtain ⟨recordable, rfl, reason⟩ := divides
  induction events generalizing source number with
  | nil =>
    have failure : (readEvent source).1 = .error (.atFailure fault ends) := by
      cases reason with
      | clean => exact readEvent_failed fails
      | broken breaks =>
        have given : left ≠ [] := by
          rintro rfl
          cases breaks
        obtain ⟨after, refused⟩ := readEvent_breaks breaks (Source.delivers_ofBytes left)
        have alongside :=
          alongside_readEvent fails.yields (Source.delivers_ofBytes left) given
        rw [alongside.answer, refused]
        rfl
    have next := Reader.next_eq source
    rw [failure] at next
    cases number with
    | zero =>
      rw [Reader.call, next]
      rfl
    | succ number =>
      rw [Reader.call, next]
      exact Reader.call_failed number
  | cons event events inductionHypothesis =>
    obtain ⟨first, others⟩ := List.forall_mem_cons.mp recordable
    rw [List.flatMap_cons, List.append_assoc] at fails
    -- The record is read as it would be from memory, and the failure is still to come.
    obtain ⟨otherAfter, otherAnswer, delivered⟩ := readEvent_record first
      (Source.delivers_ofBytes (event.bytes ++ (events.flatMap Event.bytes ++ left)))
    have given : event.bytes ++ (events.flatMap Event.bytes ++ left) ≠ [] := by
      cases event <;> exact List.cons_ne_nil _ _
    obtain ⟨answer, stays⟩ :=
      alongside_readEvent fails.yields (Source.delivers_ofBytes _) given
    rw [otherAnswer] at answer stays
    obtain ⟨behind, later, otherLater⟩ := stays (.inr (by simp))
    obtain rfl := otherLater.holds.unique delivered.holds
    have next := Reader.next_eq source
    rw [answer] at next
    cases number with
    | zero =>
      rw [Reader.call, next]
      rfl
    | succ number =>
      rw [Reader.call, next]
      exact inductionHypothesis number others later

/-- What a caller hears from the reader of a source, who asks again and again, or why the source is
refused. -/
def converse (source : Source) (askings : List Asking) :
    Except ReadError (List (Option (Except ReadError Event))) :=
  (openTrace source).map fun opened => Reader.converse { source := opened } askings

/-- Sources that deliver the same bytes are opened alike, or refused alike. -/
theorem openTrace_delivers {bytes : Bytes} (delivers : source.Delivers bytes)
    (otherDelivers : other.Delivers bytes) :
    (∃ opened otherOpened rest, openTrace source = .ok opened ∧ openTrace other = .ok otherOpened ∧
        opened.Delivers rest ∧ otherOpened.Delivers rest) ∨
      openTrace source = .error .badMagic ∧ openTrace other = .error .badMagic := by
  by_cases begins : magic <+: bytes
  · obtain ⟨rest, rfl⟩ := begins
    obtain ⟨opened, answer, later⟩ := openTrace_magic delivers
    obtain ⟨otherOpened, otherAnswer, otherLater⟩ := openTrace_magic otherDelivers
    exact .inl ⟨opened, otherOpened, rest, answer, otherAnswer, later, otherLater⟩
  · exact .inr ⟨openTrace_badMagic delivers begins, openTrace_badMagic otherDelivers begins⟩

/-- A caller hears the same from sources that deliver the same bytes. -/
theorem converse_delivers {bytes : Bytes} (delivers : source.Delivers bytes)
    (askings : List Asking) :
    converse source askings = converse (.ofBytes bytes) askings := by
  rw [converse, converse]
  rcases openTrace_delivers delivers (Source.delivers_ofBytes bytes) with
    ⟨opened, otherOpened, rest, answer, otherAnswer, later, otherLater⟩ | ⟨answer, otherAnswer⟩
  · rw [answer, otherAnswer]
    let reader : Reader := { source := opened }
    let otherReader : Reader := { source := otherOpened }
    have follows : reader.source.Follows none otherReader.source := ⟨rest, later, otherLater⟩
    exact congrArg Except.ok (Reader.converse_follows follows rfl askings)
  · rw [answer, otherAnswer]

/-- The events of sources that deliver the same bytes are the same. -/
theorem readEvents_delivers {bytes : Bytes} (delivers : source.Delivers bytes) :
    (openTrace source).map readEvents = eventsOfBytes bytes := by
  rw [eventsOfBytes]
  rcases openTrace_delivers delivers (Source.delivers_ofBytes bytes) with
    ⟨opened, otherOpened, rest, answer, otherAnswer, later, otherLater⟩ | ⟨answer, otherAnswer⟩
  · obtain ⟨events, left, ending, divides⟩ := exists_divides rest
    rw [answer, otherAnswer]
    exact congrArg Except.ok ((divides.collect later).trans (divides.collect otherLater).symm)
  · rw [answer, otherAnswer]
    rfl

/-- The trace of events, when its source fails behind the magic line, reads as the events before the
failure and the error there. -/
theorem reads_up_to_failure (events : List Event) (recordable : ∀ event ∈ events, event.Recordable)
    (cut : Nat) (enough : magic.length ≤ cut) (within : cut ≤ (bytesOfEvents events).length)
    {fault : ReadFault} (fails : source.FailsBehind ((bytesOfEvents events).take cut) fault) :
    ∃ before after opened, events = before ++ after ∧ (bytesOfEvents before).length ≤ cut ∧
      (∀ next ∈ after.head?, cut < (bytesOfEvents (before ++ [next])).length) ∧
      openTrace source = .ok opened ∧
      ∀ number, Reader.call number { source := opened } = (answers before (some (.atFailure fault
        (if (bytesOfEvents before).length = cut then none else some .truncated))))[number]? := by
  obtain ⟨count, rfl⟩ := Nat.exists_eq_add_of_le enough
  rw [length_bytesOfEvents] at within
  rw [bytesOfEvents, List.take_length_add_append] at fails
  obtain ⟨opened, answer, later⟩ := openTrace_yields fails.yields
  obtain ⟨before, after, left, same, divides, fits, beyond⟩ :=
    exists_divides_take events recordable count (by omega)
  refine ⟨before, after, opened, same, ?_, ?_, answer, ?_⟩
  · rw [length_bytesOfEvents]
    omega
  · intro next member
    have further := beyond next member
    rw [length_bytesOfEvents]
    omega
  · rw [length_bytesOfEvents]
    simpa only [Nat.add_left_cancel_iff] using divides.call_failing later

/-- How a trace arrives goes unnoticed, up to a failure. A source that delivers certain bytes, in
pieces of any size and with interruptions anywhere, is opened or refused as the same bytes in memory
are; every caller hears the same from it, also one who goes on after errors, and the events are the
same. The trace of whole records whose source fails behind any number of its bytes reads as the
events of the records that are whole before the failure and then as one error: the failure, or, when
its kind also stands for a missing end of input, a bad magic line inside that line and an input that
ends too early behind the tag of a record. -/
theorem arrival_goes_unnoticed (bytes : Bytes) :
    (∀ source : Source, source.Delivers bytes →
      (∀ askings, converse source askings = converse (.ofBytes bytes) askings) ∧
        (openTrace source).map readEvents = eventsOfBytes bytes) ∧
    ∀ records, bytes = magic ++ records → AreRecords records →
      ∃ events, eventsOfBytes bytes = .ok (events, none) ∧ bytesOfEvents events = bytes ∧
        ∀ cut ≤ bytes.length, ∀ (source : Source) (fault : ReadFault),
          source.FailsBehind (bytes.take cut) fault →
            if cut < magic.length then
              openTrace source = .error (if fault.isEnd then .badMagic else .failed fault.text)
            else ∃ before after opened error, events = before ++ after ∧
              (bytesOfEvents before).length ≤ cut ∧
              (∀ next ∈ after.head?, cut < (bytesOfEvents (before ++ [next])).length) ∧
              openTrace source = .ok opened ∧
              (∀ number, Reader.call number { source := opened } =
                (answers before (some error))[number]?) ∧
              readEvents opened = (before, some error) ∧
              error = if (bytesOfEvents before).length < cut ∧ fault.isEnd then .truncated
                else .failed fault.text := by
  refine ⟨fun source delivers => ⟨converse_delivers delivers, readEvents_delivers delivers⟩, ?_⟩
  rintro records rfl areRecords
  obtain ⟨events, recordable, rfl⟩ := areRecords.exists_events
  have divides : Divides (events.flatMap Event.bytes) events [] none :=
    ⟨recordable, (List.append_nil _).symm, .clean⟩
  refine ⟨events, divides.reads.collected, rfl, ?_⟩
  intro cut within source fault fails
  split
  case isTrue short =>
    refine openTrace_failed fails ?_
    rw [List.length_take]
    omega
  case isFalse enough =>
    obtain ⟨before, after, opened, same, fits, beyond, answer, called⟩ :=
      reads_up_to_failure events recordable cut (Nat.le_of_not_lt enough) within fails
    refine ⟨before, after, opened, _, same, fits, beyond, answer, called,
      Reader.collect_of_call called, ?_⟩
    by_cases whole : (bytesOfEvents before).length = cut
    · have behind : ¬ ((bytesOfEvents before).length < cut ∧ fault.isEnd = true) := by omega
      rw [if_pos whole, if_neg behind]
      rfl
    · have inside : (bytesOfEvents before).length < cut := by omega
      rw [if_neg whole]
      simp only [inside, true_and]
      rfl

/-- The failure of a source that is no end of the input. -/
def boom : ReadFault := ⟨false, "boom"⟩

/-- The short trace in pieces of three and twenty-two bytes, with interruptions, and then a failure
inside its frame. -/
def brokenDelivery : Source :=
  { deliveries :=
      [.interrupted, .piece ((bytesOfEvents shortTrace).take 3), .interrupted, .interrupted,
        .piece (((bytesOfEvents shortTrace).take 25).drop 3), .interrupted]
    afterwards := some boom }

/-- The short trace in pieces of one byte, with an interruption before each. -/
def slowDelivery : Source :=
  { deliveries := (bytesOfEvents shortTrace).flatMap fun byte => [.interrupted, .piece [byte]] }

/-- The short trace byte by byte reads as the short trace; when the source fails inside the frame,
it reads as the start and then as that failure. -/
theorem arrival_goes_unnoticed_short :
    slowDelivery.Delivers (bytesOfEvents shortTrace) ∧
      (openTrace slowDelivery).map readEvents = eventsOfBytes (bytesOfEvents shortTrace) ∧
      converse slowDelivery [.record, .event, .record] =
        converse (.ofBytes (bytesOfEvents shortTrace)) [.record, .event, .record] ∧
      AreRecords (shortTrace.flatMap Event.bytes) ∧ 25 ≤ (bytesOfEvents shortTrace).length ∧
      brokenDelivery.FailsBehind ((bytesOfEvents shortTrace).take 25) boom ∧
      (openTrace brokenDelivery).map readEvents =
        .ok ([.started 16000], some (.failed "boom")) := by
  have slow : slowDelivery.Delivers (bytesOfEvents shortTrace) := by
    have bytewise : ∀ bytes : Bytes, Source.Holds
        (bytes.flatMap fun byte => [.interrupted, .piece [byte]]) bytes := by
      intro bytes
      induction bytes with
      | nil => exact .nothing
      | cons byte bytes inductionHypothesis =>
        exact .interrupted (.piece (List.cons_ne_nil byte []) inductionHypothesis)
    exact ⟨bytewise _, rfl⟩
  have recordable : ∀ event ∈ shortTrace, event.Recordable := by
    simp only [shortTrace, List.forall_mem_cons, Event.Recordable]
    exact ⟨trivial, ⟨by decide, by decide, by decide, by decide⟩, by simp⟩
  have areRecords := areRecords_of_recordable shortTrace recordable
  have long : 25 ≤ (bytesOfEvents shortTrace).length := by decide
  have broken : brokenDelivery.FailsBehind ((bytesOfEvents shortTrace).take 25) boom :=
    .interrupted (.piece (by decide) (.interrupted (.interrupted
      (.piece (by decide) (.interrupted (.spent rfl))))))
  obtain ⟨whole, failing⟩ := arrival_goes_unnoticed (bytesOfEvents shortTrace)
  refine ⟨slow, (whole _ slow).2, (whole _ slow).1 _, areRecords, long, broken, ?_⟩
  obtain ⟨events, collected, -, reads⟩ := failing _ rfl areRecords
  have read := (Divides.reads ⟨recordable, (List.append_nil _).symm, .clean⟩).collected
  rw [← bytesOfEvents, collected] at read
  obtain rfl : events = shortTrace := congrArg Prod.fst (Except.ok.inj read)
  have cut := reads 25 long brokenDelivery boom broken
  rw [if_neg (by decide)] at cut
  obtain ⟨before, after, opened, error, same, fits, beyond, answer, -, collected, rfl⟩ := cut
  rw [answer]
  refine congrArg Except.ok (collected.trans ?_)
  rcases before with _ | ⟨first, _ | ⟨second, before⟩⟩
  · obtain rfl : after = shortTrace := same.symm
    exact absurd (beyond (.started 16000) rfl) (by decide)
  · obtain ⟨rfl, -⟩ := List.cons.inj same
    rfl
  · obtain ⟨rfl, others⟩ := List.cons.inj same
    obtain ⟨rfl, nothing⟩ := List.cons.inj others
    obtain ⟨rfl, -⟩ := List.append_eq_nil_iff.mp nothing.symm
    exact absurd fits (by decide)

end VoiceEngine.Trace
