import VoiceEngine.Proofs.Delivery
import VoiceEngine.Proofs.Records

/-!
# Reading accepts the grammar

Reading one record is exact: it takes a whole record and leaves what is behind it, finds a clean
end at nothing, and answers otherwise with the reason why no whole record begins there. So a reader
hands out the events of the whole records that come first, as many as there are, and then stops.
-/

namespace VoiceEngine.Trace

variable {source : Source}

/-- A source that begins with the magic line is opened behind it. -/
theorem openTrace_magic {rest : Bytes} (delivers : source.Delivers (magic ++ rest)) :
    ∃ after, openTrace source = .ok after ∧ after.Delivers rest := by
  obtain ⟨after, answer, later⟩ := delivers.readExactly
  exact ⟨after, by rw [openTrace, answer]; exact if_pos rfl, later⟩

/-- A source that does not begin with the magic line is refused. -/
theorem openTrace_badMagic {bytes : Bytes} (delivers : source.Delivers bytes)
    (other : ¬ magic <+: bytes) : openTrace source = .error .badMagic := by
  rcases Nat.lt_or_ge bytes.length magic.length with short | enough
  · obtain ⟨after, answer⟩ := delivers.readExactly_short short
    rw [openTrace, answer]
    rfl
  · have parts : bytes = bytes.take magic.length ++ bytes.drop magic.length :=
      (List.take_append_drop _ _).symm
    have length : (bytes.take magic.length).length = magic.length := List.length_take_of_le enough
    rw [parts] at delivers
    obtain ⟨after, answer, -⟩ := delivers.readExactly
    rw [length] at answer
    rw [openTrace, answer]
    exact if_neg fun line => other (List.prefix_iff_eq_take.mpr line.symm)

/-- The four bytes behind the tag of a start are its rate. -/
theorem readStarted_rate {r0 r1 r2 r3 : UInt8} {rest : Bytes}
    (delivers : source.Delivers ([r0, r1, r2, r3] ++ rest)) :
    ∃ after, readStarted source = (.ok (.started (word32 r0 r1 r2 r3).toInt32), after) ∧
      after.Delivers rest := by
  obtain ⟨after, answer, later⟩ := delivers.readExactly
  refine ⟨after, ?_, later⟩
  rw [readStarted, show source.readExactly 4 = _ from answer]

/-- The seven bytes behind the tag of a frame are its header. -/
theorem readFrame_header {r0 r1 r2 r3 channels low high : UInt8} {rest : Bytes}
    (delivers : source.Delivers ([r0, r1, r2, r3, channels, low, high] ++ rest)) :
    ∃ after, readFrame source =
        readSamples (word32 r0 r1 r2 r3) channels.toNat (word16 low high).toNat after ∧
      after.Delivers rest := by
  obtain ⟨after, answer, later⟩ := delivers.readExactly
  refine ⟨after, ?_, later⟩
  rw [readFrame, show source.readExactly 7 = _ from answer]

/-- The samples of a frame that a record can hold are read back as the frame. -/
theorem readSamples_frame {frame : Frame} (fits : FitsRecord frame) {rest : Bytes}
    (delivers : source.Delivers (sampleBytes frame.data ++ rest)) :
    ∃ after, readSamples frame.rate frame.channelCount frame.length source = (.ok frame, after) ∧
      after.Delivers rest := by
  obtain ⟨after, answer, later⟩ := delivers.readExactly
  rw [fits.length_sampleBytes] at answer
  have channels : frame.channelCount ≠ 0 := Nat.one_le_iff_ne_zero.mp fits.hasChannels
  have length : frame.data.length / frame.channelCount = frame.length := by
    rw [fits.wellFormed, Nat.mul_div_cancel_left _ fits.hasChannels]
  have even : ¬ frame.data.length % frame.channelCount ≠ 0 := by
    rw [fits.wellFormed, Nat.mul_mod_right]
    exact fun odd => odd rfl
  refine ⟨after, ?_, later⟩
  rw [readSamples, if_neg channels, answer]
  simp only [samplesOfBytes_sampleBytes, Frame.ofInterleaved, if_neg channels, if_neg even, length]

/-- A frame that a record can hold is read back from what follows its tag. -/
theorem readFrame_frame (tag : UInt8) {frame : Frame} (fits : FitsRecord frame) {rest : Bytes}
    (delivers : source.Delivers ((frameBytes tag frame).tail ++ rest)) :
    ∃ after, readFrame source = (.ok frame, after) ∧ after.Delivers rest := by
  obtain ⟨behind, header, later⟩ := readFrame_header delivers
  rw [fits.toNat_channels, fits.toNat_length, word32_bytes32] at header
  obtain ⟨after, answer, final⟩ := readSamples_frame fits later
  exact ⟨after, header.trans answer, final⟩

/-- The record of an event that can be recorded is read back as the event. -/
theorem readEvent_record {event : Event} (recordable : event.Recordable) {rest : Bytes}
    (delivers : source.Delivers (event.bytes ++ rest)) :
    ∃ after, readEvent source = (.ok (some event), after) ∧ after.Delivers rest := by
  cases event with
  | started rate =>
    obtain ⟨behind, tag, later⟩ := delivers.read_one
    obtain ⟨after, answer, final⟩ := readStarted_rate later
    refine ⟨after, ?_, final⟩
    simp only [readEvent, tag, readTagged, if_pos, answer, word32_bytes32]
    rfl
  | rendered frame =>
    obtain ⟨behind, tag, later⟩ := delivers.read_one
    obtain ⟨after, answer, final⟩ := readFrame_frame renderedTag recordable later
    refine ⟨after, ?_, final⟩
    rw [readEvent, tag]
    simp only [readTagged, answer]
    rfl
  | captured frame =>
    obtain ⟨behind, tag, later⟩ := delivers.read_one
    obtain ⟨after, answer, final⟩ := readFrame_frame capturedTag recordable later
    refine ⟨after, ?_, final⟩
    rw [readEvent, tag]
    simp only [readTagged, answer]
    rfl

/-- Nothing where a record would begin is a clean end, also for every later read. -/
theorem readEvent_end (delivers : source.Delivers []) :
    ∃ after, readEvent source = (.ok none, after) ∧ after.Delivers [] := by
  obtain ⟨after, answer, later⟩ := delivers.read_end
  exact ⟨after, by rw [readEvent, answer], later⟩

/-- What follows the tag of a frame is read as the frame, when the tag is one. -/
theorem readTagged_frameTag {tag : UInt8} (isFrame : IsFrameTag tag) {error : ReadError}
    {after : Source} (answer : readFrame source = (.error error, after)) :
    readTagged tag source = (.error error, after) := by
  rcases isFrame with rfl | rfl <;> simp only [readTagged, answer] <;> rfl

/-- Where no whole record begins, the reason why is the answer. The reasons are the cases of the
grammar, and each is met by the one read that cannot be satisfied: of the tag, of the header or of
the samples. -/
theorem readEvent_breaks {left : Bytes} {error : ReadError} (breaks : Breaks left error)
    (delivers : source.Delivers left) : ∃ after, readEvent source = (.error error, after) := by
  -- Behind the tag, every reason is found by the read that it makes fail.
  suffices tagged : ∀ tag rest, left = tag :: rest → ∀ behind : Source, behind.Delivers rest →
      ∃ after, readTagged tag behind = (.error error, after) by
    cases left with
    | nil => cases breaks
    | cons tag rest =>
      obtain ⟨behind, first, later⟩ := delivers.read_one
      obtain ⟨after, answer⟩ := tagged tag rest rfl behind later
      exact ⟨after, by rw [readEvent, first]; simp only [answer]; rfl⟩
  intro tag rest parts behind later
  cases breaks with
  | @unknownTag found others above =>
    have other (known : UInt8) (low : known.toNat ≤ 2) : found ≠ known := by
      rintro rfl
      omega
    have noStart : found ≠ startedTag := other startedTag (by decide)
    have noRendered : found ≠ renderedTag := other renderedTag (by decide)
    have noCaptured : found ≠ capturedTag := other capturedTag (by decide)
    obtain ⟨rfl, rfl⟩ := List.cons.inj parts
    exact ⟨behind, by rw [readTagged, if_neg noStart, if_neg noRendered, if_neg noCaptured]⟩
  | noChannels r0 r1 r2 r3 low high others isFrame =>
    obtain ⟨rfl, rfl⟩ := List.cons.inj parts
    obtain ⟨after, header, -⟩ := readFrame_header later
    refine ⟨after, readTagged_frameTag isFrame (header.trans ?_)⟩
    rw [readSamples]
    rfl
  | shortStart short =>
    obtain ⟨rfl, rfl⟩ := List.cons.inj parts
    obtain ⟨after, answer⟩ := later.readExactly_short short
    refine ⟨after, ?_⟩
    rw [readTagged, if_pos rfl, readStarted, answer]
    rfl
  | shortHeader isFrame short =>
    obtain ⟨rfl, rfl⟩ := List.cons.inj parts
    obtain ⟨after, answer⟩ := later.readExactly_short short
    refine ⟨after, readTagged_frameTag isFrame ?_⟩
    rw [readFrame, answer]
    rfl
  | shortSamples r0 r1 r2 r3 low high isFrame hasChannels short =>
    obtain ⟨rfl, rfl⟩ := List.cons.inj parts
    obtain ⟨header, answer, samples⟩ := readFrame_header later
    obtain ⟨after, failure⟩ := samples.readExactly_short short
    refine ⟨after, readTagged_frameTag isFrame (answer.trans ?_)⟩
    rw [readSamples, if_neg (Nat.one_le_iff_ne_zero.mp hasChannels), failure]
    rfl

/-- The bytes of an event that can be recorded, with others behind them, are those of no other
event, and the others are the same too. -/
theorem Event.Recordable.unique {event other : Event} (recordable : event.Recordable)
    (otherRecordable : other.Recordable) {rest others : Bytes}
    (same : event.bytes ++ rest = other.bytes ++ others) : event = other ∧ rest = others := by
  obtain ⟨after, answer, -⟩ := readEvent_record recordable (Source.delivers_ofBytes _)
  obtain ⟨otherAfter, otherAnswer, -⟩ :=
    readEvent_record otherRecordable (Source.delivers_ofBytes _)
  rw [← same, answer] at otherAnswer
  have equal : event = other :=
    Option.some.inj (Except.ok.inj (congrArg Prod.fst otherAnswer))
  subst equal
  exact ⟨rfl, List.append_cancel_left same⟩

/-- No whole record begins where there is a reason why none does. -/
theorem Breaks.not_recordable {event : Event} {rest : Bytes} {error : ReadError}
    (breaks : Breaks (event.bytes ++ rest) error) : ¬ event.Recordable := by
  intro recordable
  obtain ⟨after, answer, -⟩ := readEvent_record recordable (Source.delivers_ofBytes _)
  obtain ⟨failedAfter, failure⟩ := readEvent_breaks breaks (Source.delivers_ofBytes _)
  rw [answer] at failure
  cases congrArg Prod.fst failure

/-- There is one reason only. -/
theorem Breaks.unique {left : Bytes} {error other : ReadError} (breaks : Breaks left error)
    (otherBreaks : Breaks left other) : error = other := by
  obtain ⟨after, failure⟩ := readEvent_breaks breaks (Source.delivers_ofBytes _)
  obtain ⟨otherAfter, otherFailure⟩ := readEvent_breaks otherBreaks (Source.delivers_ofBytes _)
  rw [failure] at otherFailure
  exact Except.error.inj (congrArg Prod.fst otherFailure)

/-- How reading ends at what is left behind the last whole record: without an error at nothing,
else with the reason why no whole record begins there. -/
inductive Ends : Bytes → Option ReadError → Prop
  | clean : Ends [] none
  | broken {left : Bytes} {error : ReadError} (breaks : Breaks left error) : Ends left (some error)

/-- Where reading ends, no whole record begins. -/
theorem Ends.not_recordable {left : Bytes} {ending : Option ReadError} (ends : Ends left ending)
    {event : Event} {rest : Bytes} (parts : event.bytes ++ rest = left) : ¬ event.Recordable := by
  cases ends with
  | clean => cases event <;> cases parts
  | broken breaks =>
    subst parts
    exact breaks.not_recordable

/-- A division of bytes into the records of events and what is left, where no further record
begins. -/
structure Divides (rest : Bytes) (events : List Event) (left : Bytes)
    (ending : Option ReadError) : Prop where
  recordable : ∀ event ∈ events, event.Recordable
  parts : rest = events.flatMap Event.bytes ++ left
  ends : Ends left ending

/-- One more record in front. -/
theorem Divides.cons {event : Event} (first : event.Recordable) {rest : Bytes}
    {events : List Event} {left : Bytes} {ending : Option ReadError}
    (divides : Divides rest events left ending) :
    Divides (event.bytes ++ rest) (event :: events) left ending where
  recordable := List.forall_mem_cons.mpr ⟨first, divides.recordable⟩
  parts := by rw [divides.parts, List.flatMap_cons, List.append_assoc]
  ends := divides.ends

/-- All bytes can be divided. -/
theorem exists_divides (rest : Bytes) :
    ∃ events left ending, Divides rest events left ending := by
  -- Every record has a tag, so what is behind it is shorter.
  induction length : rest.length using Nat.strongRecOn generalizing rest with
  | ind count inductionHypothesis =>
    rcases nothing_or_record_or_breaks rest with rfl | ⟨record, behind, isRecord, rfl⟩ |
      ⟨error, breaks⟩
    · exact ⟨[], [], none, by simp, rfl, .clean⟩
    · have shorter : behind.length < count := by
        have positive : 0 < record.length := by cases isRecord <;> simp
        rw [← length, List.length_append]
        omega
      obtain ⟨events, left, ending, divides⟩ := inductionHypothesis _ shorter behind rfl
      obtain ⟨event, recordable, rfl⟩ := isRecord.exists_event
      exact ⟨event :: events, left, ending, divides.cons recordable⟩
    · exact ⟨[], rest, some error, by simp, rfl, .broken breaks⟩

/-- No division has more records in front than another. -/
theorem Divides.events_prefix {rest : Bytes} {events : List Event} {left : Bytes}
    {ending : Option ReadError} (divides : Divides rest events left ending)
    {others : List Event} (recordable : ∀ event ∈ others, event.Recordable) {behind : Bytes}
    (parts : rest = others.flatMap Event.bytes ++ behind) : others <+: events := by
  obtain ⟨allRecordable, same, ends⟩ := divides
  rw [parts] at same
  clear parts
  induction others generalizing events with
  | nil => exact List.nil_prefix
  | cons other others inductionHypothesis =>
    rw [List.flatMap_cons, List.append_assoc] at same
    obtain ⟨first, later⟩ := List.forall_mem_cons.mp recordable
    cases events with
    | nil =>
      rw [List.flatMap_nil, List.nil_append] at same
      exact absurd first (ends.not_recordable same)
    | cons event events =>
      rw [List.flatMap_cons, List.append_assoc] at same
      obtain ⟨eventFirst, eventLater⟩ := List.forall_mem_cons.mp allRecordable
      obtain ⟨rfl, sameLater⟩ := first.unique eventFirst same
      exact List.cons_prefix_cons.mpr ⟨rfl, inductionHypothesis later eventLater sameLater⟩

/-- There is an error exactly when there is a reason for it. -/
theorem Ends.eq_some_iff {left : Bytes} {ending : Option ReadError} (ends : Ends left ending)
    (error : ReadError) : ending = some error ↔ Breaks left error := by
  cases ends with
  | clean => exact ⟨fun none => (nomatch none), fun breaks => nomatch breaks⟩
  | broken breaks =>
    exact ⟨fun same => Option.some.inj same ▸ breaks,
      fun other => congrArg some (breaks.unique other)⟩

/-- Reading ends without an error exactly when the bytes are whole records, one behind the other. -/
theorem Divides.eq_none_iff {rest : Bytes} {events : List Event} {left : Bytes}
    {ending : Option ReadError} (divides : Divides rest events left ending) :
    ending = none ↔ AreRecords rest := by
  constructor
  · rintro rfl
    have nothing : left = [] := by cases divides.ends; rfl
    rw [divides.parts, nothing, List.append_nil]
    exact areRecords_of_recordable events divides.recordable
  · intro areRecords
    obtain ⟨others, recordable, rfl⟩ := areRecords.exists_events
    -- The events of all the bytes come first, so nothing is left for an error.
    obtain ⟨more, rfl⟩ := divides.events_prefix recordable (List.append_nil _).symm
    have parts := divides.parts
    rw [List.flatMap_append, List.append_assoc] at parts
    have nothing := (List.append_eq_nil_iff.mp (List.self_eq_append_right.mp parts)).2
    subst nothing
    cases divides.ends with
    | clean => rfl
    | broken breaks => cases breaks

/-- What a reader answers to a call, when it is called again and again; the first call is the one
with number zero. -/
def Reader.call : Nat → Reader → Option (Except ReadError Event)
  | 0, reader => reader.next.1
  | later + 1, reader => reader.next.2.call later

/-- Events one after another, then an error if there is one. -/
def answers (events : List Event) (ending : Option ReadError) : List (Except ReadError Event) :=
  events.map .ok ++ (ending.map .error).toList

/-- A trace in memory reads as certain events and an ending. It is opened, the calls of the reader
are answered by the events, then by the error if there is one, and then by nothing, and so it is
collected. -/
structure Reads (bytes : Bytes) (events : List Event) (ending : Option ReadError) : Prop where
  answered : ∃ source, openTrace (.ofBytes bytes) = .ok source ∧
    ∀ number, Reader.call number { source } = (answers events ending)[number]?
  collected : eventsOfBytes bytes = .ok (events, ending)

/-- A reader that met an error answers with nothing. -/
theorem Reader.call_failed (number : Nat) :
    Reader.call number { source, failed := true } = none := by
  induction number with
  | zero => rfl
  | succ number inductionHypothesis => exact inductionHypothesis

/-- A reader at the end of the input answers with nothing. -/
theorem Reader.call_end (delivers : source.Delivers []) (number : Nat) :
    Reader.call number { source } = none := by
  induction number generalizing source with
  | zero =>
    obtain ⟨after, answer, -⟩ := readEvent_end delivers
    rw [Reader.call, Reader.next, answer]
    rfl
  | succ number inductionHypothesis =>
    obtain ⟨after, answer, later⟩ := readEvent_end delivers
    rw [Reader.call, Reader.next, answer]
    exact inductionHypothesis later

/-- A reader at the record of an event hands out the event. -/
theorem Reader.next_record {event : Event} (recordable : event.Recordable) {rest : Bytes}
    (delivers : source.Delivers (event.bytes ++ rest)) :
    ∃ after, Reader.next { source } = (some (.ok event), { source := after }) ∧
      after.Delivers rest := by
  obtain ⟨after, answer, later⟩ := readEvent_record recordable delivers
  refine ⟨after, ?_, later⟩
  rw [Reader.next, answer]
  rfl

/-- A reader where reading ends. -/
theorem Reader.next_ends {left : Bytes} {ending : Option ReadError} (ends : Ends left ending)
    (delivers : source.Delivers left) :
    ∃ after, Reader.next { source } = (ending.map .error, after) ∧
      ∀ number, after.call number = none := by
  cases ends with
  | clean =>
    obtain ⟨after, answer, later⟩ := readEvent_end delivers
    exact ⟨{ source := after }, by rw [Reader.next, answer]; rfl, Reader.call_end later⟩
  | broken breaks =>
    obtain ⟨after, answer⟩ := readEvent_breaks breaks delivers
    exact ⟨{ source := after, failed := true }, by rw [Reader.next, answer]; rfl,
      Reader.call_failed⟩

/-- The calls of a reader are answered by the events of the records in front and the ending. -/
theorem Divides.call {rest : Bytes} {events : List Event} {left : Bytes}
    {ending : Option ReadError} (divides : Divides rest events left ending)
    (delivers : source.Delivers rest) (number : Nat) :
    Reader.call number { source } = (answers events ending)[number]? := by
  obtain ⟨recordable, rfl, ends⟩ := divides
  induction events generalizing source number with
  | nil =>
    obtain ⟨after, answer, later⟩ := Reader.next_ends ends delivers
    cases number with
    | zero =>
      rw [Reader.call, answer]
      cases ending <;> rfl
    | succ number =>
      rw [Reader.call, answer, later]
      cases ending <;> rfl
  | cons event events inductionHypothesis =>
    obtain ⟨first, others⟩ := List.forall_mem_cons.mp recordable
    rw [List.flatMap_cons, List.append_assoc] at delivers
    obtain ⟨after, answer, later⟩ := Reader.next_record first delivers
    cases number with
    | zero =>
      rw [Reader.call, answer]
      rfl
    | succ number =>
      rw [Reader.call, answer]
      exact inductionHypothesis number others later

/-- A reader that hands out an event collects it before the others. -/
theorem Reader.collect_of_event {reader after : Reader} {event : Event}
    (handed : reader.next = (some (.ok event), after)) :
    reader.collect = (event :: after.collect.1, after.collect.2) := by
  rw [collect]
  split
  all_goals simp_all

/-- A reader that hands out no event any more collects nothing but its error, if there is one. -/
theorem Reader.collect_of_ending {reader after : Reader} {ending : Option ReadError}
    (ended : reader.next = (ending.map .error, after)) : reader.collect = ([], ending) := by
  rw [collect]
  cases ending with
  | none =>
    split
    all_goals simp_all
  | some error =>
    split
    all_goals simp_all

/-- A reader collects the events that it answers its calls with, up to the ending. -/
theorem Reader.collect_of_call {reader : Reader} {events : List Event} {ending : Option ReadError}
    (answered : ∀ number, reader.call number = (answers events ending)[number]?) :
    reader.collect = (events, ending) := by
  induction events generalizing reader with
  | nil =>
    have first : reader.next.1 = ending.map .error := by
      rw [← Reader.call, answered 0]
      cases ending <;> rfl
    exact collect_of_ending (show reader.next = (ending.map .error, reader.next.2) by rw [← first])
  | cons event events inductionHypothesis =>
    have first : reader.next.1 = some (.ok event) := answered 0
    have handed : reader.next = (some (.ok event), reader.next.2) := by rw [← first]
    have later := inductionHypothesis fun number => answered (number + 1)
    rw [collect_of_event handed, later]

/-- The events that a reader collects are those of the records in front. -/
theorem Divides.collect {rest : Bytes} {events : List Event} {left : Bytes}
    {ending : Option ReadError} (divides : Divides rest events left ending)
    (delivers : source.Delivers rest) : Reader.collect { source } = (events, ending) :=
  Reader.collect_of_call (divides.call delivers)

/-- A trace reads as the events of the records in front of what is left, and as the ending there. -/
theorem Divides.reads {rest : Bytes} {events : List Event} {left : Bytes}
    {ending : Option ReadError} (divides : Divides rest events left ending) :
    Reads (magic ++ rest) events ending := by
  obtain ⟨source, opened, delivers⟩ := openTrace_magic (Source.delivers_ofBytes (magic ++ rest))
  refine ⟨⟨source, opened, divides.call delivers⟩, ?_⟩
  rw [eventsOfBytes, opened]
  exact congrArg Except.ok (divides.collect delivers)

/-- A record that is cut begins no whole record any more, since the input ends too early. -/
theorem IsRecord.breaks_take {record : Bytes} (isRecord : IsRecord record) {cut : Nat}
    (positive : 0 < cut) (within : cut < record.length) : Breaks (record.take cut) .truncated := by
  obtain ⟨count, rfl⟩ := Nat.exists_eq_add_one_of_ne_zero (Nat.pos_iff_ne_zero.mp positive)
  cases isRecord with
  | started r0 r1 r2 r3 =>
    simp only [List.length_cons, List.length_nil] at within
    refine .shortStart ?_
    simp only [List.length_take, List.length_cons, List.length_nil]
    omega
  | framed r0 r1 r2 r3 low high isFrame hasChannels complete =>
    rcases Nat.lt_or_ge count 7 with inHeader | inSamples
    · refine .shortHeader isFrame ?_
      simp only [List.length_take]
      omega
    · obtain ⟨behind, rfl⟩ := Nat.exists_eq_add_of_le' inSamples
      simp only [List.length_cons] at within
      refine .shortSamples r0 r1 r2 r3 low high isFrame hasChannels ?_
      simp only [List.length_take]
      omega

/-- Whole records that are cut divide into the records before the cut and what is left of the one
that was cut, where reading ends too early unless the cut is between two records. -/
theorem exists_divides_take (events : List Event)
    (recordable : ∀ event ∈ events, event.Recordable) (cut : Nat)
    (within : cut ≤ (events.flatMap Event.bytes).length) :
    ∃ before after left, events = before ++ after ∧
      Divides ((events.flatMap Event.bytes).take cut) before left
        (if (before.flatMap Event.bytes).length = cut then none else some .truncated) ∧
      (before.flatMap Event.bytes).length ≤ cut ∧
      ∀ next ∈ after.head?, cut < ((before ++ [next]).flatMap Event.bytes).length := by
  induction events generalizing cut with
  | nil =>
    obtain rfl : cut = 0 := by simpa using within
    exact ⟨[], [], [], rfl, ⟨by simp, by simp, .clean⟩, Nat.le_refl 0, by simp⟩
  | cons event events inductionHypothesis =>
    obtain ⟨first, others⟩ := List.forall_mem_cons.mp recordable
    rw [List.flatMap_cons, List.length_append] at within
    rcases Nat.lt_or_ge cut event.bytes.length with inside | behind
    · -- The cut is at or inside the first record.
      refine ⟨[], event :: events, event.bytes.take cut, rfl, ⟨by simp, ?_, ?_⟩, Nat.zero_le cut,
        by simpa using inside⟩
      · rw [List.flatMap_cons, List.take_append_of_le_length (Nat.le_of_lt inside)]
        rfl
      · rcases Nat.eq_zero_or_pos cut with rfl | positive
        · exact .clean
        · show Ends _ (if 0 = cut then none else some ReadError.truncated)
          rw [if_neg (Nat.ne_of_lt positive)]
          exact .broken (first.isRecord.breaks_take positive inside)
    · obtain ⟨more, rfl⟩ := Nat.exists_eq_add_of_le behind
      obtain ⟨before, after, left, rfl, divides, fits, beyond⟩ :=
        inductionHypothesis others more (by omega)
      refine ⟨event :: before, after, left, rfl, ?_, ?_, ?_⟩
      · rw [List.flatMap_cons, List.take_append, List.take_of_length_le (by omega),
          Nat.add_sub_cancel_left, List.flatMap_cons, List.length_append]
        simpa only [Nat.add_left_cancel_iff] using divides.cons first
      · rw [List.flatMap_cons, List.length_append]
        omega
      · intro next member
        have later := beyond next member
        rw [List.cons_append, List.flatMap_cons, List.length_append]
        omega

/-- The number of bytes in a trace of events. -/
theorem length_bytesOfEvents (events : List Event) :
    (bytesOfEvents events).length = magic.length + (events.flatMap Event.bytes).length :=
  List.length_append

/-- Bytes that are cut inside the magic line are refused. -/
theorem openTrace_take (bytes : Bytes) {cut : Nat} (short : cut < magic.length) :
    openTrace (.ofBytes (bytes.take cut)) = .error .badMagic := by
  refine openTrace_badMagic (Source.delivers_ofBytes _) fun isPrefix => ?_
  have long := isPrefix.length_le
  rw [List.length_take] at long
  omega

/-- The trace of events, cut behind the magic line, reads as the events before the cut, and as
ending too early unless the cut is between two records. -/
theorem reads_take (events : List Event) (recordable : ∀ event ∈ events, event.Recordable)
    (cut : Nat) (enough : magic.length ≤ cut) (within : cut ≤ (bytesOfEvents events).length) :
    ∃ before after, events = before ++ after ∧ (bytesOfEvents before).length ≤ cut ∧
      (∀ next ∈ after.head?, cut < (bytesOfEvents (before ++ [next])).length) ∧
      Reads ((bytesOfEvents events).take cut) before
        (if (bytesOfEvents before).length = cut then none else some .truncated) := by
  obtain ⟨count, rfl⟩ := Nat.exists_eq_add_of_le enough
  rw [length_bytesOfEvents] at within
  obtain ⟨before, after, left, same, divides, fits, beyond⟩ :=
    exists_divides_take events recordable count (by omega)
  refine ⟨before, after, same, ?_, ?_, ?_⟩
  · rw [length_bytesOfEvents]
    omega
  · intro next member
    have later := beyond next member
    rw [length_bytesOfEvents]
    omega
  · rw [bytesOfEvents, List.take_length_add_append, length_bytesOfEvents]
    simpa only [Nat.add_left_cancel_iff] using divides.reads

/-- Reading accepts exactly the grammar. A trace is refused exactly when it does not begin with the
magic line. Otherwise reading it gives the events of the longest part of the rest that is whole
records, then the reason why no further record begins there, if bytes are left, and then nothing. It
ends without an error exactly when the rest is whole records; then writing the events gives the
trace back, and a trace cut anywhere reads as the events whose records are complete before the cut,
and as ending too early unless the cut is between two records. -/
theorem accepts_exactly_the_grammar (bytes : Bytes) :
    (openTrace (.ofBytes bytes) = .error .badMagic ↔ ¬ magic <+: bytes) ∧
    ∀ rest, bytes = magic ++ rest →
      ∃ events ending whole left, Reads bytes events ending ∧
        rest = whole ++ left ∧ AreRecords whole ∧
        (∀ longer, AreRecords longer → longer <+: rest → longer <+: whole) ∧
        (∀ event ∈ events, event.Recordable) ∧ bytesOfEvents events = magic ++ whole ∧
        (∀ error, ending = some error ↔ Breaks left error) ∧
        (ending = none ↔ AreRecords rest) ∧
        (ending = none → bytesOfEvents events = bytes ∧
          ∀ cut ≤ bytes.length,
            if cut < magic.length then
              openTrace (.ofBytes (bytes.take cut)) = .error .badMagic
            else ∃ before after, events = before ++ after ∧
              (bytesOfEvents before).length ≤ cut ∧
              (∀ next ∈ after.head?, cut < (bytesOfEvents (before ++ [next])).length) ∧
              Reads (bytes.take cut) before
                (if (bytesOfEvents before).length = cut then none else some .truncated)) := by
  refine ⟨⟨?_, openTrace_badMagic (Source.delivers_ofBytes bytes)⟩, ?_⟩
  · rintro refused ⟨rest, rfl⟩
    obtain ⟨after, opened, -⟩ := openTrace_magic (Source.delivers_ofBytes (magic ++ rest))
    rw [refused] at opened
    cases opened
  · rintro rest rfl
    obtain ⟨events, left, ending, divides⟩ := exists_divides rest
    refine ⟨events, ending, events.flatMap Event.bytes, left, divides.reads, divides.parts,
      areRecords_of_recordable events divides.recordable, ?_, divides.recordable, rfl,
      divides.ends.eq_some_iff, divides.eq_none_iff, ?_⟩
    · rintro longer areRecords ⟨behind, parts⟩
      obtain ⟨others, recordable, rfl⟩ := areRecords.exists_events
      obtain ⟨more, rfl⟩ := divides.events_prefix recordable parts.symm
      rw [List.flatMap_append]
      exact List.prefix_append _ _
    · rintro rfl
      have nothing : left = [] := by cases divides.ends; rfl
      have written : bytesOfEvents events = magic ++ rest := by
        rw [divides.parts, nothing, List.append_nil]
        rfl
      refine ⟨written, fun cut within => ?_⟩
      split
      case isTrue short => exact openTrace_take _ short
      case isFalse enough =>
        rw [← written] at within ⊢
        exact reads_take events divides.recordable cut (Nat.le_of_not_lt enough) within

/-- A start and a captured frame of two silent samples, in thirty-one bytes. -/
def shortTrace : List Event := [.started 16000, .captured (.silent 16000 1 2)]

/-- The trace of a start and a frame, cut inside the frame, reads as the start and then as ending
too early. -/
theorem accepts_exactly_the_grammar_cut :
    bytesOfEvents shortTrace = magic ++ shortTrace.flatMap Event.bytes ∧
      AreRecords (shortTrace.flatMap Event.bytes) ∧ 25 ≤ (bytesOfEvents shortTrace).length ∧
      Reads ((bytesOfEvents shortTrace).take 25) [.started 16000] (some .truncated) := by
  have recordable : ∀ event ∈ shortTrace, event.Recordable := by
    simp only [shortTrace, List.forall_mem_cons, Event.Recordable]
    exact ⟨trivial, ⟨by decide, by decide, by decide, by decide⟩, nofun⟩
  have areRecords := areRecords_of_recordable shortTrace recordable
  have long : 25 ≤ (bytesOfEvents shortTrace).length := by decide
  refine ⟨rfl, areRecords, long, ?_⟩
  obtain ⟨events, ending, whole, left, reads, -, -, -, -, -, -, clean, onCut⟩ :=
    (accepts_exactly_the_grammar (bytesOfEvents shortTrace)).2 _ rfl
  obtain rfl : ending = none := clean.mpr areRecords
  have collected := (Divides.reads ⟨recordable, (List.append_nil _).symm, .clean⟩).collected
  rw [← bytesOfEvents, reads.collected] at collected
  obtain rfl : events = shortTrace := congrArg Prod.fst (Except.ok.inj collected)
  have cut := (onCut rfl).2 25 long
  rw [if_neg (by decide)] at cut
  obtain ⟨before, after, same, fits, beyond, cutReads⟩ := cut
  rcases before with _ | ⟨first, _ | ⟨second, before⟩⟩
  · obtain rfl : after = shortTrace := same.symm
    exact absurd (beyond (.started 16000) rfl) (by decide)
  · obtain ⟨rfl, -⟩ := List.cons.inj same
    exact cutReads
  · obtain ⟨rfl, others⟩ := List.cons.inj same
    obtain ⟨rfl, nothing⟩ := List.cons.inj others
    obtain ⟨rfl, -⟩ := List.append_eq_nil_iff.mp nothing.symm
    exact absurd fits (by decide)

end VoiceEngine.Trace
