import Mathlib.Data.List.Basic
import VoiceEngine.Proofs.Downmix
import VoiceEngine.Proofs.Storage

/-!
# Taking frames apart and putting them together

Storage with a row for every channel takes a frame apart without loss: every row in use becomes a
channel of the frame, the rows behind them keep what an earlier frame left, and putting the rows in
use together again gives back the samples of the frame, whatever the frame they are written to held
before. Two channels that are mixed down come back as their mean.
-/

namespace VoiceEngine

namespace Frame

/-- A frame has as many channels as it announces. -/
theorem length_channels (frame : Frame) : frame.channels.length = frame.channelCount := by
  rw [channels, List.length_map, List.length_range]

/-- The samples of a channel stand one instant apart. -/
theorem getElem?_channel (frame : Frame) {channel : Nat} (inside : channel < frame.channelCount)
    (instant : Nat) :
    (frame.channel channel)[instant]? = frame.data[instant * frame.channelCount + channel]? := by
  have period : max frame.channelCount 1 = frame.channelCount := by omega
  have place : channel + frame.channelCount * instant = instant * frame.channelCount + channel := by
    rw [Nat.mul_comm, Nat.add_comm]
  rw [Frame.channel, period, getElem?_strided (by omega), place]

/-- A frame of two channels has a mean for every instant. -/
theorem length_mixed {frame : Frame} (wellFormed : frame.WellFormed)
    (stereo : frame.channelCount = 2) : frame.mixed.data.length = frame.length := by
  have first := frame.length_channel 0 wellFormed (by omega)
  have second := frame.length_channel 1 wellFormed (by omega)
  rw [mixed, List.length_zipWith, first, second, Nat.min_self]

/-- Every instant of a frame of two channels has a left and a right sample, and in the mixed frame
their mean. -/
theorem mixed_instant {frame : Frame} (wellFormed : frame.WellFormed)
    (stereo : frame.channelCount = 2) {instant : Nat} (inside : instant < frame.length) :
    ∃ left right mean, frame.data[2 * instant]? = some left ∧
      frame.data[2 * instant + 1]? = some right ∧ frame.mixed.data[instant]? = some mean ∧
      mean.toInt = (left.toInt + right.toInt) / 2 := by
  have length : frame.data.length = 2 * frame.length := stereo ▸ wellFormed
  have here : frame.data[2 * instant]? = some frame.data[2 * instant] :=
    List.getElem?_eq_getElem (by omega)
  have beside : frame.data[2 * instant + 1]? = some frame.data[2 * instant + 1] :=
    List.getElem?_eq_getElem (by omega)
  obtain ⟨mean, found, value⟩ := toInt_mixed stereo here beside
  exact ⟨_, _, mean, here, beside, found, value⟩

end Frame

variable {α : Type}

/-- A list with entries written over every `period`-th cell, after passing over the first `skip`
cells, as long as there are both. -/
def overwrite (skip period : Nat) : List α → List α → List α
  | _, [] => []
  | [], cells => cells
  | entry :: entries, cell :: cells =>
    match skip with
    | 0 => entry :: overwrite (period - 1) period entries cells
    | remaining + 1 => cell :: overwrite remaining period (entry :: entries) cells

/-- Writing over cells adds none and removes none. -/
theorem length_overwrite (skip period : Nat) (entries cells : List α) :
    (overwrite skip period entries cells).length = cells.length := by
  induction cells generalizing skip entries with
  | nil => cases entries <;> rfl
  | cons cell cells inductionHypothesis =>
    cases entries with
    | nil => rfl
    | cons entry entries =>
      cases skip with
      | zero => simp [overwrite, inductionHypothesis]
      | succ remaining => simp [overwrite, inductionHypothesis]

/-- Entries that meet as many cells are read back where they were written. -/
theorem strided_overwrite {skip period : Nat} {entries cells : List α}
    (enough : (strided skip period cells).length = entries.length) :
    strided skip period (overwrite skip period entries cells) = entries := by
  induction cells generalizing skip entries with
  | nil => exact (List.eq_nil_of_length_eq_zero enough.symm).symm ▸ rfl
  | cons cell cells inductionHypothesis =>
    cases entries with
    | nil => exact List.eq_nil_of_length_eq_zero enough
    | cons entry entries =>
      cases skip with
      | zero =>
        have later := inductionHypothesis (Nat.succ.inj enough)
        simp only [overwrite, strided, later]
      | succ remaining => exact inductionHypothesis enough

/-- What stands at other places stays. The places differ within one period, so they never meet:
whichever comes first, the other is next a shorter way off. -/
theorem strided_overwrite_of_ne {skip other period : Nat} {entries cells : List α}
    (apart : other ≠ skip) (inside : skip < period) (alsoInside : other < period) :
    strided other period (overwrite skip period entries cells) = strided other period cells := by
  induction cells generalizing skip other entries with
  | nil => cases entries <;> rfl
  | cons cell cells inductionHypothesis =>
    cases entries with
    | nil => rfl
    | cons entry entries =>
      cases skip with
      | zero =>
        cases other with
        | zero => exact absurd rfl apart
        | succ other => exact inductionHypothesis (by omega) (by omega) (by omega)
      | succ remaining =>
        cases other with
        | zero =>
          have later : strided (period - 1) period (overwrite remaining period (entry :: entries)
              cells) = strided (period - 1) period cells :=
            inductionHypothesis (by omega) (by omega) (by omega)
          simp only [overwrite, strided, later]
        | succ other => exact inductionHypothesis (by omega) (by omega) (by omega)

/-- A list of whole periods is known by its rows. -/
theorem eq_interleave {length : Nat} {rows : List (List α)} {data : List α}
    (room : data.length = rows.length * length)
    (known : ∀ index < rows.length, strided index rows.length data = rows.getD index []) :
    data = interleave length rows := by
  cases rows with
  | nil =>
    have empty : data = [] := List.eq_nil_of_length_eq_zero (room.trans (Nat.zero_mul length))
    have nothing : interleave length ([] : List (List α)) = [] := by
      apply List.eq_nil_of_length_eq_zero
      rw [length_interleave length [] (by simp), List.length_nil, Nat.zero_mul]
    rw [empty, nothing]
  | cons first others =>
    have picked : (List.range (first :: others).length).map
        (strided · (first :: others).length data) = first :: others := by
      apply List.ext_getElem
      · rw [List.length_map, List.length_range]
      · intro index inside alsoInside
        rw [List.getElem_map, List.getElem_range, known index alsoInside,
          List.getD_eq_getElem?_getD, List.getElem?_eq_getElem alsoInside, Option.getD_some]
    have together := interleave_strided (Nat.succ_pos others.length) room
    exact together.symm.trans (congrArg (interleave length) picked)

/-- Rows written one after another, each over its own cells, end up interleaved, whatever the cells
held: after every row the cells of all rows so far hold these rows. -/
theorem foldl_overwrite {length : Nat} {rows : List (List α)} {cells : List α}
    (even : ∀ row ∈ rows, row.length = length) (room : cells.length = rows.length * length) :
    (List.range rows.length).foldl
        (fun cells index => overwrite index rows.length (rows.getD index []) cells) cells =
      interleave length rows := by
  have written (count : Nat) (few : count ≤ rows.length) :
      let after := (List.range count).foldl
        (fun cells index => overwrite index rows.length (rows.getD index []) cells) cells
      after.length = rows.length * length ∧
        ∀ index < count, strided index rows.length after = rows.getD index [] := by
    induction count with
    | zero => exact ⟨room, fun index early => absurd early (Nat.not_lt_zero index)⟩
    | succ count inductionHypothesis =>
      obtain ⟨size, known⟩ := inductionHypothesis (by omega)
      rw [List.range_succ, List.foldl_append]
      refine ⟨(length_overwrite _ _ _ _).trans size, ?_⟩
      intro index early
      by_cases last : index = count
      · subst last
        apply strided_overwrite
        rw [length_strided_of_even index rows.length length _ few size,
          List.getD_eq_getElem?_getD, List.getElem?_eq_getElem few, Option.getD_some,
          even _ (List.getElem_mem few)]
      · have before : index < count := by omega
        exact (strided_overwrite_of_ne last few (by omega)).trans (known index before)
  obtain ⟨size, known⟩ := written rows.length (Nat.le_refl _)
  exact eq_interleave size known

namespace StreamBuffer

variable {buffer : StreamBuffer} {frame : Frame}

/-- A row that the frame has a channel for holds this channel. -/
theorem channels_load_of_lt {channel : Nat} (inside : channel < frame.channelCount) :
    (buffer.load frame).channels[channel]? = some (frame.channel channel) := by
  have found : frame.channels[channel]? = some (frame.channel channel) := by
    rw [Frame.channels, List.getElem?_map, List.getElem?_range inside, Option.map_some]
  rw [← found]
  exact List.getElem?_append_left (by rwa [frame.length_channels])

/-- A row behind the channels of the frame stays. -/
theorem channels_load_of_le {channel : Nat} (behind : frame.channelCount ≤ channel) :
    (buffer.load frame).channels[channel]? = buffer.channels[channel]? := by
  have past : frame.channels.length ≤ channel := by rwa [frame.length_channels]
  have place : frame.channelCount + (channel - frame.channelCount) = channel := by omega
  rw [load, List.getElem?_append_right past, frame.length_channels, List.getElem?_drop, place]

/-- The rows in use are the channels of the frame. -/
theorem take_channels_load :
    (buffer.load frame).channels.take (buffer.load frame).channelCount = frame.channels :=
  List.take_left' frame.length_channels

/-- Taking a frame apart keeps the rows. -/
theorem rows_load {count : Nat} (rows : Rows count frame.length buffer.channels)
    (wellFormed : frame.WellFormed) (few : frame.channelCount ≤ count) :
    Rows count frame.length (buffer.load frame).channels := by
  have fresh : Rows frame.channelCount frame.length frame.channels :=
    ⟨frame.length_channels, frame.length_of_mem_channels wellFormed⟩
  exact rows.overlay fresh few

/-- What was taken apart is put together as it was. Of the frame it is written to only the length
counts. -/
theorem store_load (wellFormed : frame.WellFormed) (some_channel : 1 ≤ frame.channelCount)
    {other : Frame} (length : other.length = frame.length) :
    (buffer.load frame).store other =
      { other with channelCount := frame.channelCount, data := frame.data } := by
  have together := frame.withChannels_channels wellFormed some_channel
  have data : interleave frame.length frame.channels = frame.data := congrArg Frame.data together
  rw [store, take_channels_load, Frame.withChannels, length, data, frame.length_channels]

/-- Two channels that were taken apart and mixed down are put together as their mean. -/
theorem store_mixDown_load (wellFormed : frame.WellFormed) (stereo : frame.channelCount = 2)
    {other : Frame} (length : other.length = frame.length) :
    ((buffer.load frame).mixDown 1).store other =
      { other with channelCount := 1, data := frame.mixed.data } := by
  have two : ¬ (buffer.load frame).channelCount ≤ 1 := by
    rw [channelCount_load, stereo]
    decide
  have mean : meanChannel ((buffer.load frame).channels.take (buffer.load frame).channelCount) =
      frame.mixed.data := by
    rw [take_channels_load, Frame.channels_of_stereo stereo, meanChannel_pair]
    rfl
  have first : ((buffer.load frame).channels.set 0 frame.mixed.data).take 1 =
      [frame.mixed.data] := by
    rw [load, Frame.channels_of_stereo stereo]
    rfl
  have even : frame.mixed.WellFormed := by
    rw [Frame.WellFormed, Frame.length_mixed wellFormed stereo]
    exact (Nat.one_mul frame.length).symm
  have together := frame.mixed.withChannels_channels even Nat.one_pos
  rw [Frame.channels_mixed] at together
  have data : interleave frame.length [frame.mixed.data] = frame.mixed.data :=
    congrArg Frame.data together
  simp only [mixDown, if_neg two, mean, store, first, Frame.withChannels, length, data]
  rfl

/-- A frame after the rows in use were written into it one by one. It gets their number as its
channel count, its samples are cut or filled up to that many channels, and every row goes over the
cells of its channel. -/
def writeInto (buffer : StreamBuffer) (frame : Frame) : Frame :=
  { frame with
    channelCount := buffer.channelCount
    data := (List.range buffer.channelCount).foldl
      (fun cells channel => overwrite channel buffer.channelCount (buffer.fullBand channel) cells)
      (frame.withChannelCount buffer.channelCount).data }

/-- Putting together is writing in place: every cell is written over, so nothing is left of what the
frame held. -/
theorem store_eq_writeInto {count : Nat} {other : Frame}
    (rows : Rows count other.length buffer.channels) (few : buffer.channelCount ≤ count) :
    buffer.store other = buffer.writeInto other := by
  have used : (buffer.channels.take buffer.channelCount).length = buffer.channelCount := by
    rw [List.length_take, rows.1]
    exact Nat.min_eq_left few
  have even : ∀ row ∈ buffer.channels.take buffer.channelCount, row.length = other.length :=
    fun row member => rows.2 row (List.mem_of_mem_take member)
  have room : (other.withChannelCount buffer.channelCount).data.length =
      (buffer.channels.take buffer.channelCount).length * other.length := by
    rw [used]
    simp only [Frame.withChannelCount, List.length_append, List.length_take,
      List.length_replicate]
    omega
  have written := foldl_overwrite even room
  rw [used] at written
  have inUse : ∀ channel ∈ List.range buffer.channelCount,
      (buffer.channels.take buffer.channelCount).getD channel [] = buffer.fullBand channel := by
    intro channel member
    rw [fullBand, List.getD_eq_getElem?_getD, List.getD_eq_getElem?_getD,
      List.getElem?_take_of_lt (List.mem_range.mp member)]
  rw [store, Frame.withChannels, used, ← written, writeInto]
  congr 1
  refine List.foldl_ext _ _ _ ?_
  intro cells channel member
  rw [inUse channel member]

/-- Taking a frame apart and putting it together loses nothing. Storage has a row for each of
`count` channels, with whatever contents, and a frame of rows of that length uses some of them. Then
the rows in use are the channels of the frame, sample by sample as they are interleaved in it; the
other rows stay, and no row changes its length. Put together into any frame of that length, which is
the same as writing them into it row by row, they give the channel count and the samples of the
frame back. When there are two and they are mixed down, every instant gives the mean of its two
samples, rounded toward negative infinity. -/
theorem load_lossless {count : Nat} (rows : Rows count frame.length buffer.channels)
    (wellFormed : frame.WellFormed) (some_channel : 1 ≤ frame.channelCount)
    (few : frame.channelCount ≤ count) :
    let loaded := buffer.load frame
    Rows count frame.length loaded.channels ∧
    (∀ channel < frame.channelCount, loaded.channels[channel]? = some (frame.channel channel) ∧
      ∀ instant < frame.length, ∃ sample,
        frame.data[instant * frame.channelCount + channel]? = some sample ∧
        (frame.channel channel)[instant]? = some sample) ∧
    (∀ channel, frame.channelCount ≤ channel →
      loaded.channels[channel]? = buffer.channels[channel]?) ∧
    ∀ other : Frame, other.length = frame.length →
      loaded.store other = loaded.writeInto other ∧
      (loaded.mixDown 1).store other = (loaded.mixDown 1).writeInto other ∧
      loaded.store other =
        { other with channelCount := frame.channelCount, data := frame.data } ∧
      (frame.channelCount = 2 →
        let mixed := (loaded.mixDown 1).store other
        mixed.channelCount = 1 ∧ mixed.data.length = frame.length ∧
        ∀ instant < frame.length, ∃ left right mean,
          frame.data[2 * instant]? = some left ∧ frame.data[2 * instant + 1]? = some right ∧
          mixed.data[instant]? = some mean ∧ mean.toInt = (left.toInt + right.toInt) / 2) := by
  intro loaded
  have kept : Rows count frame.length loaded.channels := rows_load rows wellFormed few
  have used : 1 ≤ loaded.channelCount ∧ loaded.channelCount ≤ count := ⟨some_channel, few⟩
  refine ⟨kept, ?_, fun channel => channels_load_of_le, ?_⟩
  · intro channel inside
    refine ⟨channels_load_of_lt inside, ?_⟩
    intro instant early
    have length := frame.length_channel channel wellFormed inside
    have found : (frame.channel channel)[instant]? = some (frame.channel channel)[instant] :=
      List.getElem?_eq_getElem (length ▸ early)
    exact ⟨_, (frame.getElem?_channel inside instant).symm.trans found, found⟩
  · intro other length
    have mixed : Rows count other.length (loaded.mixDown 1).channels :=
      length ▸ rows_mixDown kept used 1
    have fewer : (loaded.mixDown 1).channelCount ≤ count := by
      rw [channelCount_mixDown]
      exact Nat.le_trans (Nat.min_le_left _ _) used.2
    refine ⟨store_eq_writeInto (length ▸ kept) used.2, store_eq_writeInto mixed fewer,
      store_load wellFormed some_channel length, ?_⟩
    intro stereo mixed
    have same : mixed = { other with channelCount := 1, data := frame.mixed.data } :=
      store_mixDown_load wellFormed stereo length
    rw [same]
    refine ⟨rfl, Frame.length_mixed wellFormed stereo, ?_⟩
    intro instant inside
    exact Frame.mixed_instant wellFormed stereo inside

/-- Storage of three rows in which an earlier frame left its samples. -/
def threeRows : StreamBuffer :=
  { channelCount := 3, frameLength := 2, bandLength := 2,
    channels := [[9, 9], [8, 8], [7, 7]], bands := [], snapshots := [], snapshotTaken := true }

/-- A frame of two channels whose sums are negative and odd. -/
def oddFrame : Frame := { rate := 8000, channelCount := 2, length := 2, data := [1, -2, -3, 0] }

/-- The third row stays, and the mean of -3 and 0 is rounded down to -2, in a frame that had one
channel. -/
theorem load_lossless_odd :
    let other : Frame := { rate := 8000, channelCount := 1, length := 2, data := [5, 6] }
    let loaded := threeRows.load oddFrame
    (Rows 3 oddFrame.length threeRows.channels ∧ oddFrame.WellFormed ∧
      1 ≤ oddFrame.channelCount ∧ oddFrame.channelCount ≤ 3 ∧ other.length = oddFrame.length ∧
      oddFrame.channelCount = 2) ∧
    loaded.channels[1]? = some ([-2, 0] : List Sample) ∧
    loaded.channels[2]? = some ([7, 7] : List Sample) ∧
    (loaded.store other).data = [1, -2, -3, 0] ∧
    ∃ mean, ((loaded.mixDown 1).store other).data[1]? = some mean ∧ mean.toInt = -2 := by
  have rows : Rows 3 oddFrame.length threeRows.channels := ⟨rfl, by decide⟩
  have wellFormed : oddFrame.WellFormed := by decide
  intro other loaded
  obtain ⟨-, taken, kept, together⟩ := load_lossless rows wellFormed (by decide) (by decide)
  obtain ⟨-, -, back, means⟩ := together other rfl
  obtain ⟨left, right, mean, here, beside, found, value⟩ := (means rfl).2.2 1 (by decide)
  obtain rfl : -3 = left := Option.some.inj here
  obtain rfl : 0 = right := Option.some.inj beside
  refine ⟨⟨rows, wellFormed, by decide, by decide, rfl, rfl⟩, ?_, ?_, ?_, mean, found, value⟩
  · exact (taken 1 (by decide)).1
  · exact kept 2 (by decide)
  · exact congrArg Frame.data back

end StreamBuffer

end VoiceEngine
