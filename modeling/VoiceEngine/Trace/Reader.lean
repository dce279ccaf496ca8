import VoiceEngine.Trace.Source

/-!
# Reading a trace

A trace is accepted when it begins with the magic line. After that each record is read on
its own: no byte where a record would begin is a clean end, a tag that stands for nothing
is an error, and an input that ends inside a record is an error of its own. A frame needs
at least one channel.

Reading record by record may go on after an error, at whatever the failed read left. A reader
hands out events one after another and stops at the first error.
-/

namespace VoiceEngine.Trace

/-- Why a trace could not be read. -/
inductive ReadError
  /-- A read failed. -/
  | failed (text : String)
  /-- The input does not begin with the magic line. -/
  | badMagic
  /-- A record begins with a tag that stands for nothing. -/
  | unknownTag (tag : UInt8)
  /-- The input ends inside a record. -/
  | truncated
  /-- A frame has no channels. -/
  | noChannels
  deriving DecidableEq

namespace ReadError

/-- The name of an error. -/
def name : ReadError → String
  | failed _ => "Io"
  | badMagic => "BadMagic"
  | unknownTag _ => "UnknownEvent"
  | truncated => "Truncated"
  | noChannels => "InvalidFrame"

/-- The sentence for an error. -/
def message : ReadError → String
  | failed text => "trace read failed: " ++ text
  | badMagic => "not a vqe trace"
  | unknownTag tag => "unknown trace event " ++ toString tag.toNat
  | truncated => "trace ends mid-record"
  | noChannels => "trace frame has zero channels"

/-- Whether the error passes on one from the input. -/
def hasCause : ReadError → Bool
  | failed _ => true
  | _ => false

/-- What a failed read means inside a record. -/
def ofRecordFault (fault : ReadFault) : ReadError :=
  if fault.isEnd then truncated else failed fault.text

/-- What a failed read means inside the magic line. -/
def ofMagicFault (fault : ReadFault) : ReadError :=
  if fault.isEnd then badMagic else failed fault.text

end ReadError

/-- Reads the magic line; the source afterwards stands on the first record. -/
def openTrace (source : Source) : Except ReadError Source :=
  match source.readExactly magic.length with
  | (.error fault, _) => .error (.ofMagicFault fault)
  | (.ok line, after) => if line = magic then .ok after else .error .badMagic

/-- Reads what follows the tag of a start. -/
def readStarted (source : Source) : Except ReadError Event × Source :=
  match source.readExactly 4 with
  | (.ok [b0, b1, b2, b3], after) => (.ok (.started (word32 b0 b1 b2 b3).toInt32), after)
  | (.ok _, after) => (.error .truncated, after)
  | (.error fault, after) => (.error (.ofRecordFault fault), after)

/-- Reads the samples of a frame whose layout is known. -/
def readSamples (rate : UInt32) (channelCount length : Nat) (source : Source) :
    Except ReadError Frame × Source :=
  if channelCount = 0 then (.error .noChannels, source)
  else
    match source.readExactly (2 * channelCount * length) with
    | (.ok bytes, after) =>
      match Frame.ofInterleaved rate channelCount (samplesOfBytes bytes) with
      | .ok frame => (.ok frame, after)
      | .error _ => (.error .noChannels, after)
    | (.error fault, after) => (.error (.ofRecordFault fault), after)

/-- Reads what follows the tag of a frame. -/
def readFrame (source : Source) : Except ReadError Frame × Source :=
  match source.readExactly 7 with
  | (.ok [b0, b1, b2, b3, channels, low, high], after) =>
    readSamples (word32 b0 b1 b2 b3) channels.toNat (word16 low high).toNat after
  | (.ok _, after) => (.error .truncated, after)
  | (.error fault, after) => (.error (.ofRecordFault fault), after)

/-- Reads what follows a tag. -/
def readTagged (tag : UInt8) (source : Source) : Except ReadError Event × Source :=
  if tag = startedTag then readStarted source
  else if tag = renderedTag then
    let (answer, after) := readFrame source
    (answer.map .rendered, after)
  else if tag = capturedTag then
    let (answer, after) := readFrame source
    (answer.map .captured, after)
  else (.error (.unknownTag tag), source)

/-- Reads the next record; nothing at a clean end. -/
def readEvent (source : Source) : Except ReadError (Option Event) × Source :=
  match source.read 1 with
  | (.error fault, after) => (.error (.failed fault.text), after)
  | (.ok [], after) => (.ok none, after)
  | (.ok (tag :: _), after) =>
    let (answer, final) := readTagged tag after
    (answer.map some, final)

/-- Reading the samples of a frame never adds to what is left. -/
theorem remaining_readSamples_le (rate : UInt32) (channelCount length : Nat) (source : Source) :
    (readSamples rate channelCount length source).2.remaining ≤ source.remaining := by
  unfold readSamples
  split
  · exact Nat.le_refl _
  · have bound := source.remaining_readExactly_le (2 * channelCount * length)
    split
    · rename_i given
      rw [given] at bound
      split <;> exact bound
    · rename_i given
      rw [given] at bound
      exact bound

/-- Reading a frame never adds to what is left. -/
theorem remaining_readFrame_le (source : Source) :
    (readFrame source).2.remaining ≤ source.remaining := by
  unfold readFrame
  have bound := source.remaining_readExactly_le 7
  split
  · rename_i given
    rw [given] at bound
    exact Nat.le_trans (remaining_readSamples_le _ _ _ _) bound
  · rename_i given
    rw [given] at bound
    exact bound
  · rename_i given
    rw [given] at bound
    exact bound

/-- Reading a start never adds to what is left. -/
theorem remaining_readStarted_le (source : Source) :
    (readStarted source).2.remaining ≤ source.remaining := by
  unfold readStarted
  have bound := source.remaining_readExactly_le 4
  split <;> rename_i given <;> rw [given] at bound <;> exact bound

/-- Reading what follows a tag never adds to what is left. -/
theorem remaining_readTagged_le (tag : UInt8) (source : Source) :
    (readTagged tag source).2.remaining ≤ source.remaining := by
  unfold readTagged
  split
  · exact remaining_readStarted_le source
  · split
    · exact remaining_readFrame_le source
    · split
      · exact remaining_readFrame_le source
      · exact Nat.le_refl _

/-- A record that was read used some of what was left. -/
theorem remaining_readEvent_lt (source : Source) (event : Event)
    (given : (readEvent source).1 = .ok (some event)) :
    (readEvent source).2.remaining < source.remaining := by
  unfold readEvent at given ⊢
  split at given
  · simp at given
  · simp at given
  · rename_i tag others after read
    have used := source.remaining_read_lt 1 tag others (by rw [read])
    rw [read] at used
    exact Nat.lt_of_le_of_lt (remaining_readTagged_le tag after) used

/-- A reader that hands out the events of a trace one after another. Once it has met an error it
hands out nothing more. -/
structure Reader where
  source : Source
  failed : Bool := false

namespace Reader

/-- The next event, or the error that ends the trace, and the reader afterwards; nothing at a
clean end and after an error. -/
def next (reader : Reader) : Option (Except ReadError Event) × Reader :=
  if reader.failed then (none, reader)
  else
    match readEvent reader.source with
    | (.ok none, source) => (none, { source })
    | (.ok (some event), source) => (some (.ok event), { source })
    | (.error error, source) => (some (.error error), { source, failed := true })

/-- An event that was handed out used some of what was left. -/
theorem remaining_next_lt (reader : Reader) (event : Event)
    (given : reader.next.1 = some (.ok event)) :
    reader.next.2.source.remaining < reader.source.remaining := by
  unfold next at given ⊢
  split at given
  · cases given
  · rename_i ready
    rw [if_neg ready]
    split at given
    · cases given
    · rename_i found source read
      have used := remaining_readEvent_lt reader.source found (by rw [read])
      rw [read] at used
      exact used
    · cases given

/-- All events up to the clean end or the first error, and the error if there was one. -/
def collect (reader : Reader) : List Event × Option ReadError :=
  match _answered : reader.next with
  | (none, _) => ([], none)
  | (some (.error error), _) => ([], some error)
  | (some (.ok event), after) =>
    let (events, error) := collect after
    (event :: events, error)
termination_by reader.source.remaining
decreasing_by
  have used := remaining_next_lt reader event (by rw [_answered])
  rw [_answered] at used
  exact used

end Reader

/-- All events of a source up to the clean end or the first error, and the error if there was
one. -/
def readEvents (source : Source) : List Event × Option ReadError :=
  Reader.collect { source }

/-- A number of records read one after another, going on after errors. -/
def readRecords : Nat → Source → List (Except ReadError (Option Event))
  | 0, _ => []
  | count + 1, source =>
    let (answer, after) := readEvent source
    answer :: readRecords count after

/-- The events of a trace that is held in memory, or why it is none. -/
def eventsOfBytes (bytes : Bytes) : Except ReadError (List Event × Option ReadError) :=
  match openTrace (.ofBytes bytes) with
  | .ok source => .ok (readEvents source)
  | .error error => .error error

end VoiceEngine.Trace
