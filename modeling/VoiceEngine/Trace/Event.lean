import VoiceEngine.Frame

/-!
# Trace events and their bytes

A trace is a recording of everything an engine was fed. It begins with one line of magic
and continues with records, one for each event. A record begins with a tag; an event of a
new start holds the rate, and an event of a frame holds the rate, the number of channels,
the samples of each channel and then all samples in interleaved order. Integers are
written with the low byte first.

One byte limits the channels of a frame and two bytes limit its length, so only a frame
within these limits has a record.
-/

namespace VoiceEngine.Trace

/-- Bytes as they stand in a trace. -/
abbrev Bytes := List UInt8

/-- The first bytes of every trace: the line `#!vqetrace1.2`. -/
def magic : Bytes := [35, 33, 118, 113, 101, 116, 114, 97, 99, 101, 49, 46, 50, 10]

/-- What a record says. -/
inductive Event
  /-- The engine started at a rate. -/
  | started (rate : Int32)
  /-- A frame on its way to the loudspeaker. -/
  | rendered (frame : Frame)
  /-- A frame from the microphone, before it was processed. -/
  | captured (frame : Frame)
  deriving DecidableEq

/-- The tag of a start. -/
def startedTag : UInt8 := 0

/-- The tag of a frame on its way to the loudspeaker. -/
def renderedTag : UInt8 := 1

/-- The tag of a frame from the microphone. -/
def capturedTag : UInt8 := 2

/-- Sixteen bits, low byte first. -/
def bytes16 (word : UInt16) : Bytes := [word.toUInt8, (word >>> 8).toUInt8]

/-- Thirty-two bits, low byte first. -/
def bytes32 (word : UInt32) : Bytes :=
  [word.toUInt8, (word >>> 8).toUInt8, (word >>> 16).toUInt8, (word >>> 24).toUInt8]

/-- The sixteen bits of two bytes, low byte first. -/
def word16 (low high : UInt8) : UInt16 := .ofNat (low.toNat + 256 * high.toNat)

/-- The thirty-two bits of four bytes, low byte first. -/
def word32 (b0 b1 b2 b3 : UInt8) : UInt32 :=
  .ofNat (b0.toNat + 256 * (b1.toNat + 256 * (b2.toNat + 256 * b3.toNat)))

/-- The bytes of a list of samples. -/
def sampleBytes (samples : List Sample) : Bytes :=
  samples.flatMap fun sample => bytes16 sample.toUInt16

/-- Collects the samples of a list of bytes behind those already found, which are in
reverse. A last single byte is no sample. -/
def collectSamples (found : List Sample) : Bytes → List Sample
  | low :: high :: rest => collectSamples ((word16 low high).toInt16 :: found) rest
  | _ => found.reverse

/-- The samples of a list of bytes. -/
def samplesOfBytes (bytes : Bytes) : List Sample := collectSamples [] bytes

/-- The largest number of channels that a record can hold. -/
def maxRecordChannels : Nat := 255

/-- The largest number of samples of one channel that a record can hold. -/
def maxRecordLength : Nat := 65535

/-- The record of a frame. -/
def frameBytes (tag : UInt8) (frame : Frame) : Bytes :=
  tag :: bytes32 frame.rate ++ [frame.channelCount.toUInt8] ++ bytes16 frame.length.toUInt16 ++
    sampleBytes frame.data

/-- The record of an event. -/
def Event.bytes : Event → Bytes
  | started rate => startedTag :: bytes32 rate.toUInt32
  | rendered frame => frameBytes renderedTag frame
  | captured frame => frameBytes capturedTag frame

/-- The trace of a list of events. -/
def bytesOfEvents (events : List Event) : Bytes := magic ++ events.flatMap Event.bytes

/-- Why a frame has no record, if it has none. -/
def recordFault (frame : Frame) : Option Fault :=
  if maxRecordChannels < frame.channelCount then some .badChannelCount
  else if maxRecordLength < frame.length then some .badDataLength
  else none

/-- Putting two bytes together undoes taking a word apart. -/
theorem word16_bytes16 (word : UInt16) :
    word16 word.toUInt8 (word >>> 8).toUInt8 = word := by
  apply UInt16.toNat_inj.1
  have bound := word.toNat_lt
  simp [word16, Nat.shiftRight_eq_div_pow]
  omega

/-- Putting four bytes together undoes taking a word apart. -/
theorem word32_bytes32 (word : UInt32) :
    word32 word.toUInt8 (word >>> 8).toUInt8 (word >>> 16).toUInt8 (word >>> 24).toUInt8 =
      word := by
  apply UInt32.toNat_inj.1
  have bound := word.toNat_lt
  simp [word32, Nat.shiftRight_eq_div_pow]
  omega

end VoiceEngine.Trace
