import VoiceEngine.Trace.Reader

/-!
# Records

The grammar of a trace: a record is a tag and what belongs to it, byte by byte, and a trace is
whole records one behind the other. Records are exactly what the events that can be recorded are
written as, and different such events are written differently. Where the bytes that are left begin
with no whole record, there is one reason: a tag that stands for nothing, a frame without channels,
or an end that comes too early.
-/

namespace VoiceEngine.Trace

/-- A tag of a frame. -/
def IsFrameTag (tag : UInt8) : Prop := tag = renderedTag ∨ tag = capturedTag

/-- A whole record: the tag of a start and four bytes, or the tag of a frame, four bytes of rate,
one of channels, of which there is at least one, two of length, and two bytes for every sample of
every channel. -/
inductive IsRecord : Bytes → Prop
  | started (r0 r1 r2 r3 : UInt8) : IsRecord [startedTag, r0, r1, r2, r3]
  | framed {tag : UInt8} (r0 r1 r2 r3 : UInt8) {channels : UInt8} (low high : UInt8)
      {samples : Bytes} (isFrame : IsFrameTag tag) (hasChannels : 1 ≤ channels.toNat)
      (complete : samples.length = 2 * channels.toNat * (word16 low high).toNat) :
      IsRecord (tag :: r0 :: r1 :: r2 :: r3 :: channels :: low :: high :: samples)

/-- Whole records one behind the other. -/
inductive AreRecords : Bytes → Prop
  | nil : AreRecords []
  | cons {record rest : Bytes} (first : IsRecord record) (others : AreRecords rest) :
      AreRecords (record ++ rest)

/-- Why bytes that are left, and are not nothing, begin with no whole record. -/
inductive Breaks : Bytes → ReadError → Prop
  | unknownTag {tag : UInt8} (rest : Bytes) (above : 2 < tag.toNat) :
      Breaks (tag :: rest) (.unknownTag tag)
  | noChannels {tag : UInt8} (r0 r1 r2 r3 low high : UInt8) (rest : Bytes)
      (isFrame : IsFrameTag tag) :
      Breaks (tag :: r0 :: r1 :: r2 :: r3 :: 0 :: low :: high :: rest) .noChannels
  | shortStart {rest : Bytes} (short : rest.length < 4) :
      Breaks (startedTag :: rest) .truncated
  | shortHeader {tag : UInt8} {rest : Bytes} (isFrame : IsFrameTag tag)
      (short : rest.length < 7) : Breaks (tag :: rest) .truncated
  | shortSamples {tag : UInt8} (r0 r1 r2 r3 : UInt8) {channels : UInt8} (low high : UInt8)
      {rest : Bytes} (isFrame : IsFrameTag tag) (hasChannels : 1 ≤ channels.toNat)
      (short : rest.length < 2 * channels.toNat * (word16 low high).toNat) :
      Breaks (tag :: r0 :: r1 :: r2 :: r3 :: channels :: low :: high :: rest) .truncated

/-- Taking a word apart undoes putting two bytes together. -/
theorem bytes16_word16 (low high : UInt8) : bytes16 (word16 low high) = [low, high] := by
  have lowBound := low.toNat_lt
  have highBound := high.toNat_lt
  simp only [bytes16, List.cons.injEq, and_true]
  constructor
  · apply UInt8.toNat_inj.mp
    simp [word16]
  · apply UInt8.toNat_inj.mp
    simp [word16, Nat.shiftRight_eq_div_pow]
    omega

/-- Taking a word apart undoes putting four bytes together. -/
theorem bytes32_word32 (b0 b1 b2 b3 : UInt8) :
    bytes32 (word32 b0 b1 b2 b3) = [b0, b1, b2, b3] := by
  have bound0 := b0.toNat_lt
  have bound1 := b1.toNat_lt
  have bound2 := b2.toNat_lt
  have bound3 := b3.toNat_lt
  simp only [bytes32, List.cons.injEq, and_true]
  refine ⟨?_, ?_, ?_, ?_⟩
  · apply UInt8.toNat_inj.mp
    simp [word32]
  all_goals
    apply UInt8.toNat_inj.mp
    simp [word32, Nat.shiftRight_eq_div_pow]
    omega

/-- Every sample is two bytes. -/
@[simp] theorem length_sampleBytes (samples : List Sample) :
    (sampleBytes samples).length = 2 * samples.length := by
  induction samples with
  | nil => rfl
  | cons sample rest inductionHypothesis =>
    simp only [sampleBytes, List.flatMap_cons, List.length_append, bytes16, List.length_cons,
      List.length_nil] at inductionHypothesis ⊢
    omega

/-- Collecting the samples of the bytes of samples finds these, behind those already found. -/
theorem collectSamples_sampleBytes (found samples : List Sample) :
    collectSamples found (sampleBytes samples) = found.reverse ++ samples := by
  induction samples generalizing found with
  | nil => simp [sampleBytes, collectSamples]
  | cons sample rest inductionHypothesis =>
    have word := word16_bytes16 sample.toUInt16
    simp only [sampleBytes, List.flatMap_cons, bytes16, List.cons_append, List.nil_append,
      collectSamples, word] at inductionHypothesis ⊢
    simp [inductionHypothesis]

/-- Reading samples undoes writing them. -/
theorem samplesOfBytes_sampleBytes (samples : List Sample) :
    samplesOfBytes (sampleBytes samples) = samples := by
  simpa [samplesOfBytes] using collectSamples_sampleBytes [] samples

/-- Collected samples are as many as there are pairs of bytes, and are written as these bytes. -/
theorem sampleBytes_collectSamples (count : Nat) (found : List Sample) (bytes : Bytes)
    (even : bytes.length = 2 * count) :
    sampleBytes (collectSamples found bytes) = sampleBytes found.reverse ++ bytes ∧
      (collectSamples found bytes).length = found.length + count := by
  induction count generalizing found bytes with
  | zero =>
    have empty : bytes = [] := List.eq_nil_of_length_eq_zero even
    subst empty
    simp [collectSamples]
  | succ count inductionHypothesis =>
    match bytes, even with
    | low :: high :: rest, even =>
      simp only [List.length_cons] at even
      obtain ⟨written, length⟩ :=
        inductionHypothesis ((word16 low high).toInt16 :: found) rest (by omega)
      constructor
      · rw [collectSamples, written]
        simp [sampleBytes, bytes16_word16]
      · rw [collectSamples, length, List.length_cons]
        omega
    | [], even => simp at even
    | [_], even =>
      simp only [List.length_cons, List.length_nil] at even
      omega

/-- Writing samples undoes reading them from an even number of bytes. -/
theorem sampleBytes_samplesOfBytes {count : Nat} {bytes : Bytes} (even : bytes.length = 2 * count) :
    sampleBytes (samplesOfBytes bytes) = bytes ∧ (samplesOfBytes bytes).length = count := by
  simpa [samplesOfBytes, sampleBytes] using sampleBytes_collectSamples count [] bytes even

/-- A frame that a record can hold: it has channels, keeps to the limits of a record and holds
exactly the samples that it announces. -/
structure FitsRecord (frame : Frame) : Prop where
  wellFormed : frame.WellFormed
  hasChannels : 1 ≤ frame.channelCount
  fewChannels : frame.channelCount ≤ maxRecordChannels
  short : frame.length ≤ maxRecordLength

/-- An event that a record can hold. -/
def Event.Recordable : Event → Prop
  | started _ => True
  | rendered frame => FitsRecord frame
  | captured frame => FitsRecord frame

variable {frame : Frame}

/-- The number of channels is read back as it was. -/
theorem FitsRecord.toNat_channels (fits : FitsRecord frame) :
    frame.channelCount.toUInt8.toNat = frame.channelCount := by
  have few : frame.channelCount ≤ 255 := fits.fewChannels
  exact UInt8.toNat_ofNat_of_lt (show _ < 256 by omega)

/-- The length is read back as it was. -/
theorem FitsRecord.toNat_length (fits : FitsRecord frame) :
    (word16 frame.length.toUInt16.toUInt8 (frame.length.toUInt16 >>> 8).toUInt8).toNat =
      frame.length := by
  have short : frame.length ≤ 65535 := fits.short
  rw [word16_bytes16]
  exact UInt16.toNat_ofNat_of_lt (show _ < 65536 by omega)

/-- A frame that a record can hold has so many bytes of samples as its header announces. -/
theorem FitsRecord.length_sampleBytes (fits : FitsRecord frame) :
    (sampleBytes frame.data).length = 2 * frame.channelCount * frame.length := by
  rw [Trace.length_sampleBytes, fits.wellFormed, Nat.mul_assoc]

/-- The record of a frame, byte by byte up to the samples. -/
theorem frameBytes_eq (tag : UInt8) (frame : Frame) :
    frameBytes tag frame =
      tag :: frame.rate.toUInt8 :: (frame.rate >>> 8).toUInt8 :: (frame.rate >>> 16).toUInt8 ::
        (frame.rate >>> 24).toUInt8 :: frame.channelCount.toUInt8 ::
        frame.length.toUInt16.toUInt8 :: (frame.length.toUInt16 >>> 8).toUInt8 ::
        sampleBytes frame.data := rfl

/-- A frame that a record can hold is written as a record. -/
theorem isRecord_frameBytes {tag : UInt8} (isFrame : IsFrameTag tag) (fits : FitsRecord frame) :
    IsRecord (frameBytes tag frame) := by
  rw [frameBytes_eq]
  refine .framed _ _ _ _ _ _ isFrame ?_ ?_
  · rw [fits.toNat_channels]
    exact fits.hasChannels
  · rw [fits.length_sampleBytes, fits.toNat_channels, fits.toNat_length]

/-- An event that can be recorded is written as a record. -/
theorem Event.Recordable.isRecord {event : Event} (recordable : event.Recordable) :
    IsRecord event.bytes := by
  cases event with
  | started rate => exact .started _ _ _ _
  | rendered frame => exact isRecord_frameBytes (.inl rfl) recordable
  | captured frame => exact isRecord_frameBytes (.inr rfl) recordable

/-- What follows the tag of a frame, when it is complete, is what some frame is written as. -/
theorem exists_frame (tag r0 r1 r2 r3 : UInt8) {channels : UInt8} (low high : UInt8)
    {samples : Bytes} (hasChannels : 1 ≤ channels.toNat)
    (complete : samples.length = 2 * channels.toNat * (word16 low high).toNat) :
    ∃ frame, FitsRecord frame ∧ frameBytes tag frame =
      tag :: r0 :: r1 :: r2 :: r3 :: channels :: low :: high :: samples := by
  rw [Nat.mul_assoc] at complete
  obtain ⟨written, count⟩ := sampleBytes_samplesOfBytes complete
  refine ⟨{ rate := word32 r0 r1 r2 r3, channelCount := channels.toNat
            length := (word16 low high).toNat, data := samplesOfBytes samples },
    ⟨count, hasChannels, Nat.le_of_lt_succ channels.toNat_lt,
      Nat.le_of_lt_succ (word16 low high).toNat_lt⟩, ?_⟩
  simp [frameBytes, written, bytes32_word32, bytes16_word16]

/-- Every record is what some event that can be recorded is written as. -/
theorem IsRecord.exists_event {record : Bytes} (isRecord : IsRecord record) :
    ∃ event : Event, event.Recordable ∧ event.bytes = record := by
  cases isRecord with
  | started r0 r1 r2 r3 =>
    refine ⟨.started (word32 r0 r1 r2 r3).toInt32, trivial, ?_⟩
    simp [Event.bytes, bytes32_word32]
  | framed r0 r1 r2 r3 low high isFrame hasChannels complete =>
    rcases isFrame with rfl | rfl
    · obtain ⟨frame, fits, written⟩ := exists_frame renderedTag r0 r1 r2 r3 low high
        hasChannels complete
      exact ⟨.rendered frame, fits, written⟩
    · obtain ⟨frame, fits, written⟩ := exists_frame capturedTag r0 r1 r2 r3 low high
        hasChannels complete
      exact ⟨.captured frame, fits, written⟩

/-- Events that can be recorded are written as whole records. -/
theorem areRecords_of_recordable (events : List Event)
    (recordable : ∀ event ∈ events, event.Recordable) :
    AreRecords (events.flatMap Event.bytes) := by
  induction events with
  | nil => exact .nil
  | cons event events inductionHypothesis =>
    exact .cons (recordable event List.mem_cons_self).isRecord
      (inductionHypothesis fun later member => recordable later (List.mem_cons_of_mem event member))

/-- Whole records are what some events that can be recorded are written as. -/
theorem AreRecords.exists_events {bytes : Bytes} (areRecords : AreRecords bytes) :
    ∃ events : List Event, (∀ event ∈ events, event.Recordable) ∧
      events.flatMap Event.bytes = bytes := by
  induction areRecords with
  | nil => exact ⟨[], by simp, rfl⟩
  | cons first others inductionHypothesis =>
    obtain ⟨event, recordable, rfl⟩ := first.exists_event
    obtain ⟨events, allRecordable, rfl⟩ := inductionHypothesis
    exact ⟨event :: events, List.forall_mem_cons.mpr ⟨recordable, allRecordable⟩, rfl⟩

/-- Bytes behind the tag of a frame complete a record, or there is a reason why they do not. -/
theorem record_or_breaks_of_frameTag {tag : UInt8} (isFrame : IsFrameTag tag) (rest : Bytes) :
    (∃ record left, IsRecord record ∧ tag :: rest = record ++ left) ∨
      ∃ error, Breaks (tag :: rest) error := by
  match rest with
  | r0 :: r1 :: r2 :: r3 :: channels :: low :: high :: samples =>
    rcases Nat.eq_zero_or_pos channels.toNat with noChannels | hasChannels
    · obtain rfl : channels = 0 := UInt8.toNat_inj.mp noChannels
      exact .inr ⟨_, .noChannels r0 r1 r2 r3 low high samples isFrame⟩
    · rcases Nat.lt_or_ge samples.length (2 * channels.toNat * (word16 low high).toNat) with
        short | enough
      · exact .inr ⟨_, .shortSamples r0 r1 r2 r3 low high isFrame hasChannels short⟩
      · refine .inl ⟨_, samples.drop (2 * channels.toNat * (word16 low high).toNat),
          .framed r0 r1 r2 r3 low high isFrame hasChannels (List.length_take_of_le enough), ?_⟩
        simp
  | [] | [_] | [_, _] | [_, _, _] | [_, _, _, _] | [_, _, _, _, _] | [_, _, _, _, _, _] =>
    exact .inr ⟨_, .shortHeader isFrame (by simp)⟩

/-- Bytes that are left are nothing, begin with a whole record, or begin with none for a reason. -/
theorem nothing_or_record_or_breaks (bytes : Bytes) :
    bytes = [] ∨ (∃ record left, IsRecord record ∧ bytes = record ++ left) ∨
      ∃ error, Breaks bytes error := by
  cases bytes with
  | nil => exact .inl rfl
  | cons tag rest =>
    refine .inr ?_
    by_cases isStart : tag = startedTag
    · subst isStart
      match rest with
      | r0 :: r1 :: r2 :: r3 :: left => exact .inl ⟨_, left, .started r0 r1 r2 r3, rfl⟩
      | [] | [_] | [_, _] | [_, _, _] => exact .inr ⟨_, .shortStart (by simp)⟩
    · by_cases isFrame : IsFrameTag tag
      · exact record_or_breaks_of_frameTag isFrame rest
      · refine .inr ⟨_, .unknownTag rest ?_⟩
        simp only [IsFrameTag, not_or, startedTag, renderedTag, capturedTag,
          ← UInt8.toNat_inj] at isStart isFrame
        simp at isStart isFrame
        omega

end VoiceEngine.Trace
