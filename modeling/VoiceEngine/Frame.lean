import VoiceEngine.Sample
import VoiceEngine.Fault

/-!
# Interleaved frames

A frame is a block of PCM as a device delivers it: the samples of all channels at one
instant stand next to each other, instant after instant. `strided` picks one channel out
of such a list and `interleave` puts channels of equal length together again.
The statements here say which frames hold exactly the samples they announce.
-/

namespace VoiceEngine

/-- Every `period`-th entry of a list, after passing over the first `skip` entries. -/
def strided {α : Type} (skip period : Nat) : List α → List α
  | [] => []
  | entry :: rest =>
    match skip with
    | 0 => entry :: strided (period - 1) period rest
    | remaining + 1 => strided remaining period rest

/-- The first `length` instants of several channels, instant after instant. -/
def interleave {α : Type} : Nat → List (List α) → List α
  | 0, _ => []
  | length + 1, channels =>
    channels.filterMap List.head? ++ interleave length (channels.map List.tail)

/-- One block of interleaved PCM. -/
structure Frame where
  /-- Samples a second. -/
  rate : UInt32
  /-- Number of interleaved channels. -/
  channelCount : Nat
  /-- Samples of each channel. -/
  length : Nat
  /-- All samples, instant after instant. -/
  data : List Sample
  deriving DecidableEq

namespace Frame

/-- A frame holds exactly the samples that its channel count and length announce. -/
def WellFormed (frame : Frame) : Prop := frame.data.length = frame.channelCount * frame.length

instance (frame : Frame) : Decidable frame.WellFormed := by
  unfold WellFormed
  infer_instance

/-- A frame of zeros. -/
def silent (rate : UInt32) (channelCount length : Nat) : Frame :=
  { rate, channelCount, length, data := List.replicate (channelCount * length) 0 }

/-- A frame around interleaved samples, which must divide evenly among the channels. -/
def ofInterleaved (rate : UInt32) (channelCount : Nat) (data : List Sample) :
    Except Fault Frame :=
  if channelCount = 0 then .error .badChannelCount
  else if data.length % channelCount ≠ 0 then .error .badDataLength
  else .ok { rate, channelCount, length := data.length / channelCount, data }

/-- The samples of one channel. The count of channels only fixes the stride, so a channel
beyond the last one starts at a later instant. -/
def channel (frame : Frame) (index : Nat) : List Sample :=
  strided index (max frame.channelCount 1) frame.data

/-- All channels, one list each. -/
def channels (frame : Frame) : List (List Sample) :=
  (List.range frame.channelCount).map frame.channel

/-- The frame with another channel count: its list of samples is cut or filled with zeros
to the length that the new count needs. -/
def withChannelCount (frame : Frame) (count : Nat) : Frame :=
  let needed := count * frame.length
  { frame with
    channelCount := count
    data := frame.data.take needed ++ List.replicate (needed - frame.data.length) 0 }

/-- The frame with other samples, given channel by channel. -/
def withChannels (frame : Frame) (channels : List (List Sample)) : Frame :=
  { frame with channelCount := channels.length, data := interleave frame.length channels }

/-- A silent frame is well formed. -/
theorem wellFormed_silent (rate : UInt32) (channelCount length : Nat) :
    (silent rate channelCount length).WellFormed := by
  simp [WellFormed, silent]

/-- Wrapping samples always leaves a well-formed frame with the samples unchanged. -/
theorem wellFormed_ofInterleaved {rate : UInt32} {channelCount : Nat} {data : List Sample}
    {frame : Frame} (accepted : ofInterleaved rate channelCount data = .ok frame) :
    frame.WellFormed ∧ frame.data = data := by
  unfold ofInterleaved at accepted
  split at accepted
  · cases accepted
  · split at accepted
    · cases accepted
    case isFalse notZero even =>
      cases accepted
      have divides : data.length % channelCount = 0 := Decidable.not_not.1 even
      exact ⟨(Nat.mul_div_cancel' (Nat.dvd_of_mod_eq_zero divides)).symm, rfl⟩

end Frame

end VoiceEngine
