import VoiceEngine.Proofs.Interleaving
import VoiceEngine.StreamBuffer

/-!
# One channel of a stream

A lane of a stream is one of its channels with the bands, the splitting memories and the snapshot
of that channel. Two buffers agree on a lane when what the wide one keeps for that channel is what
the narrow one keeps for its first.

Everything that is done to a stream is done channel by channel. Work on the channel of the lane,
done to the first channel of the narrow buffer as well, keeps the buffers in agreement, and work
on any other channel of the wide buffer does not touch the lane. So walking over all channels of
the wide buffer and over the one channel of the narrow buffer leaves them in agreement.
-/

namespace VoiceEngine

/-- Writing the entry of a lane and the first entry keeps them equal. -/
theorem getElem?_set_lane {α : Type} {wide narrow : List α} {lane : Nat}
    (same : wide[lane]? = narrow[0]?) (entry : α) :
    (wide.set lane entry)[lane]? = (narrow.set 0 entry)[0]? := by
  rw [List.getElem?_set_self', List.getElem?_set_self', same]

/-- Copies of one entry have it on every lane. -/
theorem getElem?_replicate_lane {α : Type} {lane wide narrow : Nat} (inside : lane < wide)
    (present : 0 < narrow) (entry : α) :
    (List.replicate wide entry)[lane]? = (List.replicate narrow entry)[0]? := by
  rw [List.getElem?_replicate_of_lt inside, List.getElem?_replicate_of_lt present]

/-- What a relation says of the work on the channel of a lane, and what it says of the work on the
other channels, carries it through a walk over all of them. -/
theorem foldl_lane {Wide Narrow : Type} (Related : Wide → Narrow → Prop)
    {wideStep : Wide → Nat → Wide} {narrowStep : Narrow → Nat → Narrow} {lane count : Nat}
    (inside : lane < count)
    (here : ∀ wide narrow, Related wide narrow → Related (wideStep wide lane) (narrowStep narrow 0))
    (elsewhere : ∀ wide narrow other, other ≠ lane → Related wide narrow →
      Related (wideStep wide other) narrow)
    {wide : Wide} {narrow : Narrow} (start : Related wide narrow) :
    Related ((List.range count).foldl wideStep wide) ((List.range 1).foldl narrowStep narrow) := by
  have before (length : Nat) (short : length ≤ lane) :
      Related ((List.range length).foldl wideStep wide) narrow := by
    refine List.foldlRecOn (motive := fun now => Related now narrow) (List.range length) _ start ?_
    intro now known other member
    have early := List.mem_range.mp member
    exact elsewhere now narrow other (by omega) known
  -- Induct on the number of channels: the last one is the lane or lies behind it.
  induction count with
  | zero => omega
  | succ length inductionHypothesis =>
    rw [List.range_succ, List.foldl_append]
    rcases Nat.lt_or_eq_of_le (Nat.le_of_lt_succ inside) with behind | rfl
    · exact elsewhere _ _ length (by omega) (inductionHypothesis behind)
    · exact here _ _ (before lane (Nat.le_refl lane))

namespace StreamBuffer

/-- What a wide buffer keeps for the channel of a lane is what a narrow buffer keeps for its first
channel. -/
structure Lane (lane : Nat) (wide narrow : StreamBuffer) : Prop where
  bandLength : wide.bandLength = narrow.bandLength
  snapshotTaken : wide.snapshotTaken = narrow.snapshotTaken
  channels : wide.channels[lane]? = narrow.channels[0]?
  bands : wide.bands[lane]? = narrow.bands[0]?
  snapshots : wide.snapshots[lane]? = narrow.snapshots[0]?

variable {lane other : Nat} {wide narrow : StreamBuffer}

/-- New storage agrees on every lane. -/
theorem lane_ofFormat {first second : Format} (rate : first.rate = second.rate)
    (inside : lane < maxChannels) : (ofFormat first).Lane lane (ofFormat second) := by
  have present : 0 < maxChannels := by decide
  simp only [ofFormat, Format.bandLength, Format.frameLength, rate]
  constructor
  · rfl
  · rfl
  · exact getElem?_replicate_lane inside present _
  · dsimp only
    split
    · exact getElem?_replicate_lane inside present _
    · rfl
  · exact getElem?_replicate_lane inside present _

namespace Lane

/-- The full band of the channel. -/
theorem fullBand (known : wide.Lane lane narrow) : wide.fullBand lane = narrow.fullBand 0 := by
  simp only [StreamBuffer.fullBand, List.getD_eq_getElem?_getD, known.channels]

/-- The band that the effects work on. -/
theorem lowBand (known : wide.Lane lane narrow) : wide.lowBand lane = narrow.lowBand 0 := by
  simp only [StreamBuffer.lowBand, known.bands, known.fullBand]

/-- The high band. -/
theorem highBand? (known : wide.Lane lane narrow) : wide.highBand? lane = narrow.highBand? 0 := by
  simp only [StreamBuffer.highBand?, known.bands]

/-- The snapshot. -/
theorem snapshot? (known : wide.Lane lane narrow) : wide.snapshot? lane = narrow.snapshot? 0 := by
  simp only [StreamBuffer.snapshot?, known.snapshotTaken, List.getD_eq_getElem?_getD,
    known.snapshots]

/-- Other bands for the channel. -/
theorem setBands (known : wide.Lane lane narrow) (pair : BandPair) :
    Lane lane { wide with bands := wide.bands.set lane pair }
      { narrow with bands := narrow.bands.set 0 pair } :=
  { known with bands := getElem?_set_lane known.bands pair }

/-- Other samples for the channel. -/
theorem setChannel (known : wide.Lane lane narrow) (samples : List Sample) :
    Lane lane { wide with channels := wide.channels.set lane samples }
      { narrow with channels := narrow.channels.set 0 samples } :=
  { known with channels := getElem?_set_lane known.channels samples }

/-- Other bands for another channel. -/
theorem setBands_elsewhere (known : wide.Lane lane narrow) (different : other ≠ lane)
    (pair : BandPair) : Lane lane { wide with bands := wide.bands.set other pair } narrow :=
  { known with bands := (List.getElem?_set_ne different).trans known.bands }

/-- Other samples for another channel. -/
theorem setChannel_elsewhere (known : wide.Lane lane narrow) (different : other ≠ lane)
    (samples : List Sample) :
    Lane lane { wide with channels := wide.channels.set other samples } narrow :=
  { known with channels := (List.getElem?_set_ne different).trans known.channels }

/-- Writing the low band of the channel. -/
theorem setLowBand (known : wide.Lane lane narrow) (samples : List Sample) :
    (wide.setLowBand lane samples).Lane lane (narrow.setLowBand 0 samples) := by
  simp only [StreamBuffer.setLowBand, known.bands]
  cases narrow.bands[0]? with
  | some pair => exact known.setBands { pair with low := samples }
  | none => exact known.setChannel samples

/-- Writing the low band of another channel. -/
theorem setLowBand_elsewhere (known : wide.Lane lane narrow) (different : other ≠ lane)
    (samples : List Sample) : (wide.setLowBand other samples).Lane lane narrow := by
  simp only [StreamBuffer.setLowBand]
  cases wide.bands[other]? with
  | some pair => exact known.setBands_elsewhere different { pair with low := samples }
  | none => exact known.setChannel_elsewhere different samples

/-- Changing the high band of the channel. -/
theorem mapHighBand (known : wide.Lane lane narrow) (change : List Sample → List Sample) :
    (wide.mapHighBand lane change).Lane lane (narrow.mapHighBand 0 change) := by
  simp only [StreamBuffer.mapHighBand, known.bands]
  cases narrow.bands[0]? with
  | some pair => exact known.setBands { pair with high := change pair.high }
  | none => exact known

/-- Changing the high band of another channel. -/
theorem mapHighBand_elsewhere (known : wide.Lane lane narrow) (different : other ≠ lane)
    (change : List Sample → List Sample) : (wide.mapHighBand other change).Lane lane narrow := by
  simp only [StreamBuffer.mapHighBand]
  cases wide.bands[other]? with
  | some pair => exact known.setBands_elsewhere different { pair with high := change pair.high }
  | none => exact known

/-- Amplifying the channel. -/
theorem amplify (known : wide.Lane lane narrow) (gain : Scalar) :
    (wide.amplify lane gain).Lane lane (narrow.amplify 0 gain) := by
  simp only [StreamBuffer.amplify, mapLowBand, known.lowBand]
  exact (known.setLowBand _).mapHighBand _

/-- Amplifying another channel. -/
theorem amplify_elsewhere (known : wide.Lane lane narrow) (different : other ≠ lane)
    (gain : Scalar) : (wide.amplify other gain).Lane lane narrow :=
  (known.setLowBand_elsewhere different _).mapHighBand_elsewhere different _

/-- Splitting all channels. -/
theorem splitChannels (known : wide.Lane lane narrow) {count : Nat} (inside : lane < count) :
    (wide.splitChannels count).Lane lane (narrow.splitChannels 1) := by
  refine foldl_lane (Lane lane) inside ?_ ?_ known
  · intro wide narrow known
    simp only [StreamBuffer.splitChannel, known.bands, known.fullBand]
    cases narrow.bands[0]? with
    | some pair => exact known.setBands _
    | none => exact known
  · intro wide narrow other different known
    simp only [StreamBuffer.splitChannel]
    cases wide.bands[other]? with
    | some pair => exact known.setBands_elsewhere different _
    | none => exact known

/-- Merging all channels. -/
theorem mergeChannels (known : wide.Lane lane narrow) {count : Nat} (inside : lane < count) :
    (wide.mergeChannels count).Lane lane (narrow.mergeChannels 1) := by
  refine foldl_lane (Lane lane) inside ?_ ?_ known
  · intro wide narrow known
    simp only [StreamBuffer.mergeChannel, known.bands]
    cases narrow.bands[0]? with
    | some pair => exact (known.setChannel _).setBands _
    | none => exact known
  · intro wide narrow other different known
    simp only [StreamBuffer.mergeChannel]
    cases wide.bands[other]? with
    | some pair => exact (known.setChannel_elsewhere different _).setBands_elsewhere different _
    | none => exact known

/-- Taking a snapshot, when the channel is in use. -/
theorem takeSnapshot (known : wide.Lane lane narrow) (inside : lane < wide.channelCount)
    (single : narrow.channelCount = 1) : wide.takeSnapshot.Lane lane narrow.takeSnapshot := by
  refine { known with snapshotTaken := rfl, snapshots := ?_ }
  simp [StreamBuffer.takeSnapshot, lowBands, used, inside, single, known.lowBand,
    List.getElem?_append]

end Lane

end StreamBuffer

end VoiceEngine
