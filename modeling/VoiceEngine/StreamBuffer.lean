import VoiceEngine.SplitBands
import VoiceEngine.Frame
import VoiceEngine.Format

/-!
# Working storage of one stream

While a frame is processed its channels are kept apart. At the highest rate every channel
also has its two bands and the memories of the splitting filter, which outlast the frame.
A snapshot of the low bands can be taken during a pass; it is valid until the next frame
is loaded.

The storage always has room for the largest number of channels, whatever the frame in it
uses. Loading a frame replaces the channels that the frame has and leaves the others as
an earlier frame left them; `channelCount` says how many are in use.
-/

namespace VoiceEngine

/-- The two bands of one channel and the memories that carry them from frame to frame. -/
structure BandPair where
  low : List Sample
  high : List Sample
  splitting : SplitBands.Memory := {}
  merging : SplitBands.Memory := {}
  deriving DecidableEq

/-- One frame taken apart by channel. -/
structure StreamBuffer where
  /-- How many channels the frame at hand uses. -/
  channelCount : Nat
  /-- Samples of one channel. -/
  frameLength : Nat
  /-- Samples of one channel of one band. -/
  bandLength : Nat
  /-- The full band of every channel. -/
  channels : List (List Sample)
  /-- The bands of every channel; empty unless the stream is split. -/
  bands : List BandPair
  /-- The low bands as they were when the snapshot was taken. -/
  snapshots : List (List Sample)
  /-- Whether the snapshot belongs to the frame at hand. -/
  snapshotTaken : Bool
  deriving DecidableEq

namespace StreamBuffer

/-- Storage for a format, all silent and with every memory at rest. -/
def ofFormat (format : Format) : StreamBuffer :=
  let silentBand := List.replicate format.bandLength 0
  { channelCount := maxChannels
    frameLength := format.frameLength
    bandLength := format.bandLength
    channels := List.replicate maxChannels (List.replicate format.frameLength 0)
    bands :=
      if format.rate.isSplit then
        List.replicate maxChannels { low := silentBand, high := silentBand }
      else []
    snapshots := List.replicate maxChannels silentBand
    snapshotTaken := false }

/-- Whether channels are split into bands. -/
def isSplit (buffer : StreamBuffer) : Bool := !buffer.bands.isEmpty

/-- The numbers of the channels in use. -/
def used (buffer : StreamBuffer) : List Nat := List.range buffer.channelCount

/-- The full band of a channel. -/
def fullBand (buffer : StreamBuffer) (channel : Nat) : List Sample :=
  buffer.channels.getD channel []

/-- The band that the effects work on: the low band when the stream is split, the full
band otherwise. -/
def lowBand (buffer : StreamBuffer) (channel : Nat) : List Sample :=
  match buffer.bands[channel]? with
  | some pair => pair.low
  | none => buffer.fullBand channel

/-- The high band, when the stream is split. -/
def highBand? (buffer : StreamBuffer) (channel : Nat) : Option (List Sample) :=
  buffer.bands[channel]?.map (·.high)

/-- The snapshot of a channel, when one was taken from the frame at hand. -/
def snapshot? (buffer : StreamBuffer) (channel : Nat) : Option (List Sample) :=
  if buffer.snapshotTaken then some (buffer.snapshots.getD channel []) else none

/-- The low bands of the channels in use. -/
def lowBands (buffer : StreamBuffer) : List (List Sample) := buffer.used.map buffer.lowBand

/-- The buffer with another low band in one channel. -/
def setLowBand (buffer : StreamBuffer) (channel : Nat) (samples : List Sample) : StreamBuffer :=
  match buffer.bands[channel]? with
  | some pair => { buffer with bands := buffer.bands.set channel { pair with low := samples } }
  | none => { buffer with channels := buffer.channels.set channel samples }

/-- The buffer with the high band of one channel changed, when there is one. -/
def mapHighBand (buffer : StreamBuffer) (channel : Nat) (change : List Sample → List Sample) :
    StreamBuffer :=
  match buffer.bands[channel]? with
  | some pair =>
    { buffer with bands := buffer.bands.set channel { pair with high := change pair.high } }
  | none => buffer

/-- The buffer with the low band of one channel changed. -/
def mapLowBand (buffer : StreamBuffer) (channel : Nat) (change : List Sample → List Sample) :
    StreamBuffer :=
  buffer.setLowBand channel (change (buffer.lowBand channel))

/-- The buffer with both bands of one channel multiplied by a gain. -/
def amplify (buffer : StreamBuffer) (channel : Nat) (gain : Scalar) : StreamBuffer :=
  (buffer.mapLowBand channel (·.map (Sample.amplify gain))).mapHighBand channel
    (·.map (Sample.amplify gain))

/-- Takes a frame apart and ends the validity of the snapshot. -/
def load (buffer : StreamBuffer) (frame : Frame) : StreamBuffer :=
  { buffer with
    channelCount := frame.channelCount
    channels := frame.channels ++ buffer.channels.drop frame.channelCount
    snapshotTaken := false }

/-- Puts the channels in use back into a frame, which gets their number as its channel
count. -/
def store (buffer : StreamBuffer) (frame : Frame) : Frame :=
  frame.withChannels (buffer.channels.take buffer.channelCount)

/-- The mean of several channels, instant by instant and rounded toward negative
infinity. -/
def meanChannel (channels : List (List Sample)) : List Sample :=
  match channels with
  | [] => []
  | first :: others =>
    let sums := others.foldl (fun sums channel =>
      List.zipWith (fun sum sample => sum + sample.toInt) sums channel) (first.map (·.toInt))
    sums.map fun sum => Word.wrap16 (sum / channels.length)

/-- Mixes the channels in use down to one, when fewer are wanted than are in use. -/
def mixDown (buffer : StreamBuffer) (wanted : Nat) : StreamBuffer :=
  if buffer.channelCount ≤ wanted then buffer
  else
    let mean := meanChannel (buffer.channels.take buffer.channelCount)
    { buffer with channels := buffer.channels.set 0 mean, channelCount := wanted }

/-- Takes a snapshot of the low band of every channel in use. -/
def takeSnapshot (buffer : StreamBuffer) : StreamBuffer :=
  { buffer with
    snapshots := buffer.lowBands ++ buffer.snapshots.drop buffer.channelCount
    snapshotTaken := true }

/-- Splits the full band of one channel; does nothing when the stream is not split. -/
def splitChannel (buffer : StreamBuffer) (channel : Nat) : StreamBuffer :=
  match buffer.bands[channel]? with
  | some pair =>
    let (low, high, splitting) := SplitBands.split pair.splitting (buffer.fullBand channel)
    { buffer with bands := buffer.bands.set channel { pair with low, high, splitting } }
  | none => buffer

/-- Merges the bands of one channel; does nothing when the stream is not split. -/
def mergeChannel (buffer : StreamBuffer) (channel : Nat) : StreamBuffer :=
  match buffer.bands[channel]? with
  | some pair =>
    let (full, merging) := SplitBands.merge pair.merging pair.low pair.high
    { buffer with
      channels := buffer.channels.set channel full
      bands := buffer.bands.set channel { pair with merging } }
  | none => buffer

/-- Splits the first `count` channels. -/
def splitChannels (buffer : StreamBuffer) (count : Nat) : StreamBuffer :=
  (List.range count).foldl splitChannel buffer

/-- Merges the first `count` channels. -/
def mergeChannels (buffer : StreamBuffer) (count : Nat) : StreamBuffer :=
  (List.range count).foldl mergeChannel buffer

@[simp] theorem channelCount_load (buffer : StreamBuffer) (frame : Frame) :
    (buffer.load frame).channelCount = frame.channelCount := rfl

@[simp] theorem channelCount_setLowBand (buffer : StreamBuffer) (channel : Nat)
    (samples : List Sample) :
    (buffer.setLowBand channel samples).channelCount = buffer.channelCount := by
  unfold setLowBand
  split <;> rfl

@[simp] theorem channelCount_mapHighBand (buffer : StreamBuffer) (channel : Nat)
    (change : List Sample → List Sample) :
    (buffer.mapHighBand channel change).channelCount = buffer.channelCount := by
  unfold mapHighBand
  split <;> rfl

@[simp] theorem channelCount_splitChannel (buffer : StreamBuffer) (channel : Nat) :
    (buffer.splitChannel channel).channelCount = buffer.channelCount := by
  unfold splitChannel
  split <;> rfl

@[simp] theorem channelCount_mergeChannel (buffer : StreamBuffer) (channel : Nat) :
    (buffer.mergeChannel channel).channelCount = buffer.channelCount := by
  unfold mergeChannel
  split <;> rfl

end StreamBuffer

end VoiceEngine
