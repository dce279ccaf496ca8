import VoiceEngine.StreamBuffer
import VoiceEngine.Proofs.Interleaving

/-!
# The shape of working storage

Working storage made for a format keeps its shape whatever passes through it: two channels of
one frame each, two bands of every channel exactly when the rate asks for a split, and two
snapshots of one band each. Every access to a channel, band or snapshot of a shaped buffer
therefore finds a list of the length that the format gives it.
-/

namespace VoiceEngine

/-- So many rows, all of one length. -/
def Rows {α : Type} (count length : Nat) (rows : List (List α)) : Prop :=
  rows.length = count ∧ ∀ row ∈ rows, row.length = length

namespace Rows

variable {α : Type} {count length : Nat} {rows : List (List α)}

/-- Copies of one row are rows of its length. -/
theorem replicate (count length : Nat) (entry : α) :
    Rows count length (List.replicate count (List.replicate length entry)) := by
  refine ⟨List.length_replicate, ?_⟩
  intro row member
  rw [List.eq_of_mem_replicate member, List.length_replicate]

/-- Writing a row of the right length keeps the rows. -/
theorem set (shaped : Rows count length rows) (index : Nat) (row : List α)
    (fits : row.length = length) : Rows count length (rows.set index row) := by
  refine ⟨by rw [List.length_set, shaped.1], ?_⟩
  intro other member
  rcases List.mem_or_eq_of_mem_set member with old | rfl
  · exact shaped.2 other old
  · exact fits

/-- A row that is found has the common length. -/
theorem of_getElem? (shaped : Rows count length rows) {index : Nat} {row : List α}
    (found : rows[index]? = some row) : row.length = length :=
  shaped.2 row (List.mem_of_getElem? found)

/-- A row below the count is found. -/
theorem getElem?_eq_some (shaped : Rows count length rows) {index : Nat} (inside : index < count) :
    ∃ row, rows[index]? = some row := by
  have bound : index < rows.length := by rw [shaped.1]; exact inside
  exact ⟨rows[index], List.getElem?_eq_getElem bound⟩

/-- New rows in front of what is left of the old ones are rows again. -/
theorem overlay {fresh : Nat} {news : List (List α)} (shaped : Rows count length rows)
    (added : Rows fresh length news) (few : fresh ≤ count) :
    Rows count length (news ++ rows.drop fresh) := by
  refine ⟨by rw [List.length_append, List.length_drop, added.1, shaped.1]; omega, ?_⟩
  intro row member
  rcases List.mem_append.mp member with isNew | isOld
  · exact added.2 row isNew
  · exact shaped.2 row (List.mem_of_mem_drop isOld)

end Rows

namespace Format

/-- The number of channels that have bands. -/
def splitChannels (format : Format) : Nat := if format.rate.isSplit then maxChannels else 0

/-- A format that is split has bands of half a frame. -/
theorem frameLength_of_isSplit (format : Format) (split : format.rate.isSplit = true) :
    format.frameLength = 2 * format.bandLength := by
  simp only [frameLength, bandLength]
  cases rate : format.rate <;> simp_all [SampleRate.isSplit, SampleRate.frameLength,
    SampleRate.bandLength, SampleRate.hz, SampleRate.bandHz]

/-- A format that is not split works on whole frames. -/
theorem bandLength_of_not_isSplit (format : Format) (whole : format.rate.isSplit = false) :
    format.bandLength = format.frameLength := by
  simp only [frameLength, bandLength]
  cases rate : format.rate <;> simp_all [SampleRate.isSplit, SampleRate.frameLength,
    SampleRate.bandLength, SampleRate.hz, SampleRate.bandHz]

/-- Bands are short enough for the splitting filter. -/
theorem bandLength_le (format : Format) : format.bandLength ≤ SplitBands.maxBandLength := by
  simp only [bandLength]
  cases format.rate <;> decide

end Format

/-- The pair of bands with those of a full band in their place. -/
def BandPair.splitFrom (pair : BandPair) (full : List Sample) : BandPair :=
  { pair with
    low := (SplitBands.split pair.splitting full).1
    high := (SplitBands.split pair.splitting full).2.1
    splitting := (SplitBands.split pair.splitting full).2.2 }

namespace StreamBuffer

/-- The buffer has the shape of storage for a format, with one or two channels in use. -/
structure Shaped (buffer : StreamBuffer) (format : Format) : Prop where
  frameLength : buffer.frameLength = format.frameLength
  bandLength : buffer.bandLength = format.bandLength
  used : 1 ≤ buffer.channelCount ∧ buffer.channelCount ≤ maxChannels
  channels : Rows maxChannels format.frameLength buffer.channels
  lows : Rows format.splitChannels format.bandLength (buffer.bands.map (·.low))
  highs : Rows format.splitChannels format.bandLength (buffer.bands.map (·.high))
  snapshots : Rows maxChannels format.bandLength buffer.snapshots

/-- New storage has the shape of its format. -/
theorem shaped_ofFormat (format : Format) : (ofFormat format).Shaped format := by
  have silent (count : Nat) := Rows.replicate count format.bandLength (0 : Sample)
  constructor
  · rfl
  · rfl
  · exact ⟨Nat.le_add_left 1 1, Nat.le_refl maxChannels⟩
  · exact Rows.replicate maxChannels format.frameLength 0
  · simp only [ofFormat, Format.splitChannels]
    split
    · simpa only [List.map_replicate] using silent maxChannels
    · simpa using silent 0
  · simp only [ofFormat, Format.splitChannels]
    split
    · simpa only [List.map_replicate] using silent maxChannels
    · simpa using silent 0
  · exact silent maxChannels

variable {buffer : StreamBuffer} {format : Format}

/-- A channel in use is one that the storage has. -/
theorem Shaped.lt_of_mem_used (shaped : buffer.Shaped format) {channel : Nat}
    (member : channel ∈ buffer.used) : channel < maxChannels :=
  Nat.lt_of_lt_of_le (List.mem_range.mp member) shaped.used.2

/-- The full band of a channel is found, and it is one frame long. -/
theorem Shaped.channels_getElem? (shaped : buffer.Shaped format) {channel : Nat}
    (inside : channel < maxChannels) :
    buffer.channels[channel]? = some (buffer.fullBand channel) ∧
      (buffer.fullBand channel).length = format.frameLength := by
  obtain ⟨row, found⟩ := shaped.channels.getElem?_eq_some inside
  have same : buffer.fullBand channel = row := by
    simp [fullBand, List.getD_eq_getElem?_getD, found]
  rw [same]
  exact ⟨found, shaped.channels.of_getElem? found⟩

/-- The bands that are found have the length of a band. -/
theorem Shaped.length_of_bands (shaped : buffer.Shaped format) {channel : Nat} {pair : BandPair}
    (found : buffer.bands[channel]? = some pair) :
    pair.low.length = format.bandLength ∧ pair.high.length = format.bandLength := by
  constructor
  · exact shaped.lows.2 pair.low (List.mem_map_of_mem (List.mem_of_getElem? found))
  · exact shaped.highs.2 pair.high (List.mem_map_of_mem (List.mem_of_getElem? found))

/-- Bands are found exactly when the format is split. -/
theorem Shaped.isSplit_of_bands (shaped : buffer.Shaped format) {channel : Nat} {pair : BandPair}
    (found : buffer.bands[channel]? = some pair) : format.rate.isSplit = true := by
  have present : channel < buffer.bands.length := (List.getElem?_eq_some_iff.mp found).1
  have count : buffer.bands.length = format.splitChannels := by
    simpa only [List.length_map] using shaped.lows.1
  simp only [Format.splitChannels] at count
  split at count
  · assumption
  · omega

/-- A channel of the storage without bands belongs to a format that is not split. -/
theorem Shaped.not_isSplit_of_bands (shaped : buffer.Shaped format) {channel : Nat}
    (inside : channel < maxChannels) (missing : buffer.bands[channel]? = none) :
    format.rate.isSplit = false := by
  have absent : buffer.bands.length ≤ channel := List.getElem?_eq_none_iff.mp missing
  have count : buffer.bands.length = format.splitChannels := by
    simpa only [List.length_map] using shaped.lows.1
  simp only [Format.splitChannels] at count
  split at count
  · omega
  · simp_all

/-- The band that the effects work on has the length of a band. -/
theorem Shaped.length_lowBand (shaped : buffer.Shaped format) {channel : Nat}
    (inside : channel < maxChannels) : (buffer.lowBand channel).length = format.bandLength := by
  simp only [lowBand]
  split
  case h_1 pair found => exact (shaped.length_of_bands found).1
  case h_2 missing =>
    rw [(shaped.channels_getElem? inside).2,
      Format.bandLength_of_not_isSplit format (shaped.not_isSplit_of_bands inside missing)]

/-- So have the low bands of all channels in use, one for each of them. -/
theorem Shaped.lowBands (shaped : buffer.Shaped format) :
    Rows buffer.channelCount format.bandLength buffer.lowBands := by
  refine ⟨by simp [StreamBuffer.lowBands, StreamBuffer.used], ?_⟩
  intro row member
  obtain ⟨channel, inUse, rfl⟩ := List.mem_map.mp member
  exact shaped.length_lowBand (shaped.lt_of_mem_used inUse)

/-- Storage with a pair of bands of the right length put in place of another keeps its shape. -/
theorem Shaped.setBands (shaped : buffer.Shaped format) (channel : Nat) (pair : BandPair)
    (low : pair.low.length = format.bandLength) (high : pair.high.length = format.bandLength) :
    ({ buffer with bands := buffer.bands.set channel pair } : StreamBuffer).Shaped format where
  frameLength := shaped.frameLength
  bandLength := shaped.bandLength
  used := shaped.used
  channels := shaped.channels
  lows := by simpa only [List.map_set] using shaped.lows.set channel pair.low low
  highs := by simpa only [List.map_set] using shaped.highs.set channel pair.high high
  snapshots := shaped.snapshots

/-- Storage with a channel of the right length put in place of another keeps its shape. -/
theorem Shaped.setChannel (shaped : buffer.Shaped format) (channel : Nat) (samples : List Sample)
    (fits : samples.length = format.frameLength) :
    ({ buffer with channels := buffer.channels.set channel samples } : StreamBuffer).Shaped
      format :=
  { shaped with channels := shaped.channels.set channel samples fits }

/-- Loading a frame of the format keeps the shape. -/
theorem Shaped.load (shaped : buffer.Shaped format) (frame : Frame)
    (wellFormed : frame.WellFormed) (length : frame.length = format.frameLength)
    (few : 1 ≤ frame.channelCount ∧ frame.channelCount ≤ maxChannels) :
    (buffer.load frame).Shaped format := by
  have rows : Rows frame.channelCount format.frameLength frame.channels := by
    refine ⟨by simp [Frame.channels], ?_⟩
    intro row member
    rw [Frame.length_of_mem_channels frame wellFormed row member, length]
  exact { shaped with used := few, channels := shaped.channels.overlay rows few.2 }

/-- Sums of channels of one length have that length. -/
theorem length_meanChannel {count length : Nat} {rows : List (List Sample)}
    (shaped : Rows count length rows) (some_row : 1 ≤ count) :
    (meanChannel rows).length = length := by
  cases rows with
  | nil =>
    have empty : 0 = count := shaped.1
    omega
  | cons first others =>
    have added : (others.foldl (fun sums channel =>
        List.zipWith (fun sum (sample : Sample) => sum + sample.toInt) sums channel)
        (first.map (·.toInt))).length = length := by
      refine List.foldlRecOn (motive := fun sums : List Int => sums.length = length) others _ ?_ ?_
      · rw [List.length_map, shaped.2 first List.mem_cons_self]
      · intro sums known row member
        rw [List.length_zipWith, known, shaped.2 row (List.mem_cons_of_mem first member),
          Nat.min_self]
    simpa only [meanChannel, List.length_map] using added

/-- Mixing down keeps the rows: the mean of rows is as long as they are. -/
theorem rows_mixDown {count length : Nat} (rows : Rows count length buffer.channels)
    (used : 1 ≤ buffer.channelCount ∧ buffer.channelCount ≤ count) (wanted : Nat) :
    Rows count length (buffer.mixDown wanted).channels := by
  simp only [StreamBuffer.mixDown]
  split
  · exact rows
  · have mixed : Rows buffer.channelCount length (buffer.channels.take buffer.channelCount) := by
      refine ⟨by rw [List.length_take, rows.1]; exact Nat.min_eq_left used.2, ?_⟩
      exact fun row member => rows.2 row (List.mem_of_mem_take member)
    exact rows.set 0 _ (length_meanChannel mixed used.1)

/-- Mixing down keeps the shape. -/
theorem Shaped.mixDown (shaped : buffer.Shaped format) (wanted : Nat)
    (few : 1 ≤ wanted ∧ wanted ≤ maxChannels) : (buffer.mixDown wanted).Shaped format := by
  have rows := rows_mixDown shaped.channels shaped.used wanted
  simp only [StreamBuffer.mixDown] at rows ⊢
  split
  case isTrue => exact shaped
  case isFalse mixes =>
    rw [if_neg mixes] at rows
    exact { shaped with used := few, channels := rows }

/-- Writing the low band of a channel keeps the shape. -/
theorem Shaped.setLowBand (shaped : buffer.Shaped format) (channel : Nat)
    (samples : List Sample) (inside : channel < maxChannels)
    (fits : samples.length = format.bandLength) :
    (buffer.setLowBand channel samples).Shaped format := by
  simp only [StreamBuffer.setLowBand]
  split
  case h_1 pair found =>
    exact shaped.setBands channel { pair with low := samples } fits
      (shaped.length_of_bands found).2
  case h_2 missing =>
    have whole := shaped.not_isSplit_of_bands inside missing
    exact shaped.setChannel channel samples
      (fits.trans (Format.bandLength_of_not_isSplit format whole))

/-- Changing the high band of a channel without changing its length keeps the shape. -/
theorem Shaped.mapHighBand (shaped : buffer.Shaped format) (channel : Nat)
    (change : List Sample → List Sample)
    (keeps : ∀ samples, (change samples).length = samples.length) :
    (buffer.mapHighBand channel change).Shaped format := by
  simp only [StreamBuffer.mapHighBand]
  split
  case h_1 pair found =>
    have lengths := shaped.length_of_bands found
    exact shaped.setBands channel { pair with high := change pair.high } lengths.1
      ((keeps pair.high).trans lengths.2)
  case h_2 => exact shaped

/-- Taking a snapshot keeps the shape. -/
theorem Shaped.takeSnapshot (shaped : buffer.Shaped format) : buffer.takeSnapshot.Shaped format :=
  { shaped with snapshots := shaped.snapshots.overlay shaped.lowBands shaped.used.2 }

/-- Splitting a channel keeps the shape. -/
theorem Shaped.splitChannel (shaped : buffer.Shaped format) (channel : Nat)
    (inside : channel < maxChannels) : (buffer.splitChannel channel).Shaped format := by
  simp only [StreamBuffer.splitChannel]
  split
  case h_1 pair found =>
    have even : (buffer.fullBand channel).length = 2 * format.bandLength := by
      rw [(shaped.channels_getElem? inside).2]
      exact Format.frameLength_of_isSplit format (shaped.isSplit_of_bands found)
    have lengths := SplitBands.length_split pair.splitting format.bandLength _ even
    exact shaped.setBands channel _ lengths.1 lengths.2
  case h_2 => exact shaped

/-- Merging a channel keeps the shape. -/
theorem Shaped.mergeChannel (shaped : buffer.Shaped format) (channel : Nat) :
    (buffer.mergeChannel channel).Shaped format := by
  simp only [StreamBuffer.mergeChannel]
  split
  case h_1 pair found =>
    have lengths := shaped.length_of_bands found
    have merged := SplitBands.length_merge pair.merging pair.low pair.high
      (lengths.2.trans lengths.1.symm)
    have whole := Format.frameLength_of_isSplit format (shaped.isSplit_of_bands found)
    rw [lengths.1, ← whole] at merged
    have kept := shaped.setBands channel
      { pair with merging := (SplitBands.merge pair.merging pair.low pair.high).2 }
      lengths.1 lengths.2
    exact kept.setChannel channel _ merged
  case h_2 => exact shaped

/-- Splitting the first channels keeps the shape. -/
theorem Shaped.splitChannels (shaped : buffer.Shaped format) (count : Nat)
    (few : count ≤ maxChannels) : (buffer.splitChannels count).Shaped format := by
  refine List.foldlRecOn (motive := fun split : StreamBuffer => split.Shaped format)
    (List.range count) _ shaped ?_
  intro split known channel member
  exact known.splitChannel channel (Nat.lt_of_lt_of_le (List.mem_range.mp member) few)

/-- Merging the first channels keeps the shape. -/
theorem Shaped.mergeChannels (shaped : buffer.Shaped format) (count : Nat) :
    (buffer.mergeChannels count).Shaped format := by
  refine List.foldlRecOn (motive := fun merged : StreamBuffer => merged.Shaped format)
    (List.range count) _ shaped ?_
  intro merged known channel _
  exact known.mergeChannel channel

/-- Splitting leaves the number of channels in use. -/
@[simp] theorem channelCount_splitChannels (buffer : StreamBuffer) (count : Nat) :
    (buffer.splitChannels count).channelCount = buffer.channelCount := by
  refine List.foldlRecOn
    (motive := fun split : StreamBuffer => split.channelCount = buffer.channelCount)
    (List.range count) _ rfl ?_
  intro split known channel _
  rw [channelCount_splitChannel, known]

/-- Merging leaves the number of channels in use. -/
@[simp] theorem channelCount_mergeChannels (buffer : StreamBuffer) (count : Nat) :
    (buffer.mergeChannels count).channelCount = buffer.channelCount := by
  refine List.foldlRecOn
    (motive := fun merged : StreamBuffer => merged.channelCount = buffer.channelCount)
    (List.range count) _ rfl ?_
  intro merged known channel _
  rw [channelCount_mergeChannel, known]

/-- Mixing a frame down leaves as many channels as were wanted, and never more than there
were. -/
theorem channelCount_mixDown (buffer : StreamBuffer) (wanted : Nat) :
    (buffer.mixDown wanted).channelCount = min buffer.channelCount wanted := by
  simp only [StreamBuffer.mixDown]
  split
  · omega
  · dsimp only
    omega

/-- Splitting the first channels replaces the bands of each of them by those of its full band, and
changes nothing else. -/
theorem splitChannels_spec (buffer : StreamBuffer) (count : Nat) :
    (∀ channel, (buffer.splitChannels count).bands[channel]? =
      if channel < count then
        buffer.bands[channel]?.map (·.splitFrom (buffer.fullBand channel))
      else buffer.bands[channel]?) ∧
    buffer.splitChannels count = { buffer with bands := (buffer.splitChannels count).bands } := by
  induction count with
  | zero => exact ⟨fun channel => by simp [StreamBuffer.splitChannels], rfl⟩
  | succ count inductionHypothesis =>
    obtain ⟨bands, others⟩ := inductionHypothesis
    have step : buffer.splitChannels (count + 1) =
        (buffer.splitChannels count).splitChannel count := by
      simp [StreamBuffer.splitChannels, List.range_succ]
    have full : (buffer.splitChannels count).fullBand = buffer.fullBand := by
      rw [others]
      rfl
    have here := bands count
    rw [if_neg (Nat.lt_irrefl count)] at here
    rw [step, StreamBuffer.splitChannel, full, here]
    cases found : buffer.bands[count]? with
    | none =>
      refine ⟨?_, others⟩
      intro channel
      rw [bands]
      by_cases last : channel = count
      · simp [last, found]
      · simp only [Nat.lt_succ_iff_lt_or_eq, last, or_false]
    | some pair =>
      refine ⟨?_, by rw [others]⟩
      intro channel
      by_cases last : channel = count
      · have inside : count < (buffer.splitChannels count).bands.length :=
          (List.getElem?_eq_some_iff.mp (here.trans found)).1
        simp [last, found, inside, BandPair.splitFrom]
      · simp only [List.getElem?_set_ne (Ne.symm last), bands, Nat.lt_succ_iff_lt_or_eq, last,
          or_false]

end StreamBuffer

end VoiceEngine
