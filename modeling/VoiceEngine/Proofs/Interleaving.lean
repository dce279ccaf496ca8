import VoiceEngine.Frame

/-!
# Interleaved data

A frame that holds exactly what it announces gives every one of its channels as many samples
as it says, and channels of one length give a frame that holds exactly what it announces and
has these channels.
-/

namespace VoiceEngine

variable {α : Type}

/-- Picking every `period`-th entry, the first after `skip` others, finds as many entries as
whole or begun periods remain. Induct along the list: an entry that is taken starts a new
period, an entry that is passed over uses up one of the entries to skip. -/
theorem length_strided (skip period : Nat) (data : List α) (inside : skip < period) :
    (strided skip period data).length = (data.length + (period - 1 - skip)) / period := by
  induction data generalizing skip with
  | nil =>
    have small : period - 1 - skip < period := by omega
    simp [strided, Nat.div_eq_of_lt small]
  | cons entry rest inductionHypothesis =>
    cases skip with
    | zero =>
      have last : period - 1 < period := by omega
      have counted := inductionHypothesis (period - 1) last
      have exact : rest.length + (period - 1 - (period - 1)) = rest.length := by omega
      have whole : rest.length + 1 + (period - 1 - 0) = rest.length + period := by omega
      simp only [strided, List.length_cons, counted, exact, whole]
      rw [Nat.add_div_right rest.length inside]
    | succ remaining =>
      have shorter : remaining < period := by omega
      have same : rest.length + 1 + (period - 1 - (remaining + 1)) =
          rest.length + (period - 1 - remaining) := by omega
      simp only [strided, List.length_cons, inductionHypothesis remaining shorter, same]

/-- A list that divides evenly among the channels gives each of them the same share. -/
theorem length_strided_of_even (skip period length : Nat) (data : List α)
    (inside : skip < period) (even : data.length = period * length) :
    (strided skip period data).length = length := by
  have small : period - 1 - skip < period := by omega
  rw [length_strided skip period data inside, even, Nat.mul_add_div (by omega),
    Nat.div_eq_of_lt small, Nat.add_zero]

/-- Rows that all have a first entry lose none of them when the first entries are collected. -/
theorem length_filterMap_head? (rows : List (List α)) (filled : ∀ row ∈ rows, row ≠ []) :
    (rows.filterMap List.head?).length = rows.length := by
  induction rows with
  | nil => rfl
  | cons row rest inductionHypothesis =>
    cases row with
    | nil => exact absurd rfl (filled [] List.mem_cons_self)
    | cons entry others =>
      have later : ∀ row ∈ rest, row ≠ [] := fun row member =>
        filled row (List.mem_cons_of_mem (entry :: others) member)
      simp [inductionHypothesis later]

/-- Rows of one length are interleaved without loss. -/
theorem length_interleave (length : Nat) (rows : List (List α))
    (even : ∀ row ∈ rows, row.length = length) :
    (interleave length rows).length = rows.length * length := by
  induction length generalizing rows with
  | zero => rfl
  | succ length inductionHypothesis =>
    have filled : ∀ row ∈ rows, row ≠ [] := by
      intro row member empty
      have counted := even row member
      rw [empty] at counted
      simp at counted
    have shorter : ∀ row ∈ rows.map List.tail, row.length = length := by
      intro row member
      obtain ⟨whole, present, rfl⟩ := List.mem_map.mp member
      rw [List.length_tail, even whole present]
      rfl
    simp only [interleave, List.length_append, length_filterMap_head? rows filled,
      inductionHypothesis (rows.map List.tail) shorter, List.length_map]
    rw [Nat.mul_succ, Nat.add_comm]

/-- Taking every entry takes the whole list. -/
@[simp] theorem strided_zero_one (data : List α) : strided 0 1 data = data := by
  induction data with
  | nil => rfl
  | cons entry rest inductionHypothesis => simp [strided, inductionHypothesis]

/-- What is taken stands a period apart. -/
theorem getElem?_strided {period : Nat} (positive : 0 < period) (data : List α) (skip index : Nat) :
    (strided skip period data)[index]? = data[skip + period * index]? := by
  induction data generalizing skip index with
  | nil => simp [strided]
  | cons entry rest inductionHypothesis =>
    cases skip with
    | zero =>
      cases index with
      | zero => simp [strided]
      | succ index =>
        have step : 0 + period * (index + 1) = (period - 1 + period * index) + 1 := by
          rw [Nat.mul_succ]
          omega
        rw [step, List.getElem?_cons_succ, ← inductionHypothesis]
        rfl
    | succ skip =>
      have step : skip + 1 + period * index = (skip + period * index) + 1 := by omega
      rw [step, List.getElem?_cons_succ, ← inductionHypothesis]
      rfl

/-- Entries that are all passed over use up as many of the entries to skip. -/
theorem strided_append_of_le (skip period : Nat) (block rest : List α)
    (short : block.length ≤ skip) :
    strided skip period (block ++ rest) = strided (skip - block.length) period rest := by
  induction block generalizing skip with
  | nil => rfl
  | cons entry others inductionHypothesis =>
    cases skip with
    | zero => simp at short
    | succ remaining =>
      have shorter : others.length ≤ remaining := by simpa using short
      simp [strided, inductionHypothesis remaining shorter]

/-- One whole period in front of a list gives one more entry, in front. -/
theorem strided_append_period {index : Nat} {block : List α} {entry : α} (rest : List α)
    (found : block[index]? = some entry) :
    strided index block.length (block ++ rest) =
      entry :: strided index block.length rest := by
  obtain ⟨inside, rfl⟩ := List.getElem?_eq_some_iff.mp found
  have early : (block.take index).length = index := by
    rw [List.length_take]
    omega
  have late : (block.drop (index + 1)).length = block.length - 1 - index := by
    rw [List.length_drop]
    omega
  have apart : block ++ rest =
      block.take index ++ (block[index] :: (block.drop (index + 1) ++ rest)) := by
    rw [← List.cons_append, ← List.drop_eq_getElem_cons inside, ← List.append_assoc,
      List.take_append_drop]
  have before : block.length - 1 - (block.length - 1 - index) = index := by omega
  rw [apart, strided_append_of_le _ _ _ _ (Nat.le_of_eq early), early, Nat.sub_self, strided,
    strided_append_of_le _ _ _ _ (by omega), late, before]

/-- When no row is empty, the first entries are found where their rows are. -/
theorem getElem?_filterMap_head? (rows : List (List α)) (filled : ∀ row ∈ rows, row ≠ [])
    (index : Nat) : (rows.filterMap List.head?)[index]? = rows[index]?.bind List.head? := by
  induction rows generalizing index with
  | nil => rfl
  | cons row rest inductionHypothesis =>
    cases row with
    | nil => exact absurd rfl (filled [] List.mem_cons_self)
    | cons entry others =>
      have later := inductionHypothesis fun row member =>
        filled row (List.mem_cons_of_mem (entry :: others) member)
      cases index with
      | zero => rfl
      | succ index => simpa using later index

/-- Picking a row out of interleaved rows of one length gives that row. -/
theorem strided_interleave {length index : Nat} {rows : List (List α)} {row : List α}
    (even : ∀ row ∈ rows, row.length = length) (found : rows[index]? = some row) :
    strided index rows.length (interleave length rows) = row := by
  induction length generalizing rows row with
  | zero => exact (List.eq_nil_of_length_eq_zero (even row (List.mem_of_getElem? found))).symm
  | succ length inductionHypothesis =>
    have filled : ∀ row ∈ rows, row ≠ [] := by
      intro row member empty
      have counted := even row member
      rw [empty] at counted
      simp at counted
    have shorter : ∀ row ∈ rows.map List.tail, row.length = length := by
      intro row member
      obtain ⟨whole, present, rfl⟩ := List.mem_map.mp member
      rw [List.length_tail, even whole present]
      rfl
    have count := length_filterMap_head? rows filled
    cases row with
    | nil => exact absurd rfl (filled [] (List.mem_of_getElem? found))
    | cons entry others =>
      have first : (rows.filterMap List.head?)[index]? = some entry := by
        rw [getElem?_filterMap_head? rows filled, found]
        rfl
      have behind : (rows.map List.tail)[index]? = some others := by simp [found]
      have later : strided index rows.length (interleave length (rows.map List.tail)) = others := by
        simpa using inductionHypothesis shorter behind
      rw [interleave, ← count, strided_append_period _ first, count, later]

/-- Picking all rows out of a list that divides evenly and interleaving them gives the list back:
the first entries of the rows are the first period, and the rows without them are the rows of the
rest. -/
theorem interleave_strided {period length : Nat} (positive : 0 < period) {data : List α}
    (even : data.length = period * length) :
    interleave length ((List.range period).map (strided · period data)) = data := by
  induction length generalizing data with
  | zero => exact (List.eq_nil_of_length_eq_zero even).symm
  | succ length inductionHypothesis =>
    have filled : ∀ row ∈ (List.range period).map (strided · period data), row ≠ [] := by
      intro row member empty
      obtain ⟨index, inside, rfl⟩ := List.mem_map.mp member
      have counted := length_strided_of_even index period (length + 1) data
        (List.mem_range.mp inside) even
      rw [empty] at counted
      cases counted
    have heads : ((List.range period).map (strided · period data)).filterMap List.head? =
        data.take period := by
      refine List.ext_getElem? fun index => ?_
      rw [getElem?_filterMap_head? _ filled, List.getElem?_map, List.getElem?_take]
      by_cases inside : index < period
      · rw [List.getElem?_range inside, if_pos inside, Option.map_some, Option.bind_some,
          List.head?_eq_getElem?, getElem?_strided positive, Nat.mul_zero, Nat.add_zero]
      · rw [List.getElem?_eq_none (by simpa using inside), if_neg inside]
        rfl
    have tails : ((List.range period).map (strided · period data)).map List.tail =
        (List.range period).map (strided · period (data.drop period)) := by
      rw [List.map_map]
      refine List.map_congr_left fun skip _ => List.ext_getElem? fun index => ?_
      rw [Function.comp_apply, List.getElem?_tail, getElem?_strided positive,
        getElem?_strided positive, List.getElem?_drop, Nat.mul_succ]
      exact congrArg (data[·]?) (by omega)
    have shorter : (data.drop period).length = period * length := by
      rw [List.length_drop, even, Nat.mul_succ, Nat.add_sub_cancel]
    rw [interleave, heads, tails, inductionHypothesis shorter, List.take_append_drop]

namespace Frame

/-- A frame that holds what it announces has channels of the announced length. -/
theorem length_channel (frame : Frame) (index : Nat) (wellFormed : frame.WellFormed)
    (inside : index < frame.channelCount) : (frame.channel index).length = frame.length := by
  have period : max frame.channelCount 1 = frame.channelCount := by omega
  simp only [channel]
  rw [period]
  exact length_strided_of_even index frame.channelCount frame.length frame.data inside wellFormed

/-- All channels of such a frame have the announced length. -/
theorem length_of_mem_channels (frame : Frame) (wellFormed : frame.WellFormed) :
    ∀ row ∈ frame.channels, row.length = frame.length := by
  intro row member
  obtain ⟨index, inside, rfl⟩ := List.mem_map.mp member
  exact length_channel frame index wellFormed (List.mem_range.mp inside)

/-- The channels of a frame with two. -/
theorem channels_of_stereo {frame : Frame} (stereo : frame.channelCount = 2) :
    frame.channels = [frame.channel 0, frame.channel 1] := by
  rw [channels, stereo]
  rfl

/-- The channel of a frame with one holds all its samples. -/
theorem channel_of_mono {frame : Frame} (mono : frame.channelCount = 1) :
    frame.channel 0 = frame.data := by
  simp [channel, mono]

/-- A frame with one channel has no other. -/
theorem channels_of_mono {frame : Frame} (mono : frame.channelCount = 1) :
    frame.channels = [frame.data] := by
  rw [channels, mono, ← channel_of_mono mono]
  rfl

/-- Channels of the announced length make a frame that holds what it announces. -/
theorem wellFormed_withChannels (frame : Frame) (rows : List (List Sample))
    (even : ∀ row ∈ rows, row.length = frame.length) : (frame.withChannels rows).WellFormed :=
  length_interleave frame.length rows even

/-- A frame that holds what it announces is put together from its own channels. -/
theorem withChannels_channels (frame : Frame) (wellFormed : frame.WellFormed)
    (some_channel : 0 < frame.channelCount) : frame.withChannels frame.channels = frame := by
  have picked : frame.channels =
      (List.range frame.channelCount).map (strided · frame.channelCount frame.data) := by
    have period : max frame.channelCount 1 = frame.channelCount := by omega
    refine List.map_congr_left fun index _ => ?_
    rw [channel, period]
  rw [withChannels, picked, interleave_strided some_channel wellFormed, List.length_map,
    List.length_range]

/-- A frame that was put together from channels of the announced length has these channels. -/
theorem channel_withChannels (frame : Frame) {rows : List (List Sample)} {row : List Sample}
    {index : Nat} (even : ∀ row ∈ rows, row.length = frame.length)
    (found : rows[index]? = some row) : (frame.withChannels rows).channel index = row := by
  have inside := (List.getElem?_eq_some_iff.mp found).1
  have period : max rows.length 1 = rows.length := by omega
  simp only [channel, withChannels]
  rw [period]
  exact strided_interleave even found

end Frame

end VoiceEngine
