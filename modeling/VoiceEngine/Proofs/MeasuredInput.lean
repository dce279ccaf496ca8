import VoiceEngine.Proofs.FreshFrames
import VoiceEngine.Proofs.Reports
import VoiceEngine.Proofs.Transparency

/-!
# What the gain control measures

The gain control measures a captured frame in the second stage and applies its gain in the last but
one. Between the two no stage touches it, so a frame that is answered leaves it measured and moved.

It looks for saturated samples in the full band. At the highest rate the high-pass filter, the only
stage before, works on the low band, and the full band is still what arrived, mixed down if fewer
channels leave. At the lower rates the filter works in place on the one band that there is, and what
is measured is its output.
-/

namespace VoiceEngine

/-- A gain control that is on and not refused moves its gain, and otherwise changes nothing but what
it recommends and whether a volume is at hand. -/
theorem GainControl.capture_spec {effect : GainControl} {audio : StreamBuffer}
    (on : effect.enabled = true) (passed : (effect.capture audio).fault = none) :
    ∃ recommended volumeIsSet, (effect.capture audio).effect =
      { effect with gain := effect.nextGain, recommended, volumeIsSet } := by
  rw [fault_capture] at passed
  have complete : ¬ effect.lacksVolume = true := by
    intro lacks
    simp [on, lacks] at passed
  simp only [capture, on, complete]
  by_cases analog : effect.mode = .adaptiveAnalog
  · simp only [analog]
    exact ⟨_, _, rfl⟩
  · simp only [if_neg analog]
    exact ⟨_, _, rfl⟩

namespace CaptureStage

/-- The stages between measuring the gain and applying it. -/
def betweenGain : List CaptureStage :=
  [.echoCanceller, .snapshot, .noiseSuppressor, .mobileEchoControl, .voiceDetector]

/-- Stages that do not belong to the gain control leave it as it is; two of the stages do. -/
theorem gainControl_run_of_ne {stage : CaptureStage} (measures : stage ≠ .measureGain)
    (applies : stage ≠ .applyGain) (delay : StreamDelay) (rack : Rack) (audio : StreamBuffer) :
    (stage.run delay rack audio).effect.gainControl = rack.gainControl := by
  cases stage with
  | measureGain => exact absurd rfl measures
  | applyGain => exact absurd rfl applies
  | snapshot =>
    simp only [run]
    split <;> rfl
  | _ => rfl

/-- When all stages pass, the high-pass filter did, and the gain control has measured what it left
and applied its gain to what arrived later. The order is the filter, the measurement, stages that do
not touch the gain control, its gain and the level meter. -/
theorem gainControl_runEach {delay : StreamDelay} {rack final : Rack} {audio left : StreamBuffer}
    (passed : runEach delay order rack audio = (none, final, left)) :
    (rack.highPass.capture audio).fault = none ∧ ∃ heard,
      ((rack.gainControl.measure (rack.highPass.capture audio).audio).capture heard).fault = none ∧
      final.gainControl =
        ((rack.gainControl.measure (rack.highPass.capture audio).audio).capture heard).effect := by
  have parts : order = [.highPass, .measureGain] ++ (betweenGain ++ [.applyGain, .levelMeter]) :=
    rfl
  rw [parts] at passed
  obtain ⟨measured, filtered, first, rest⟩ := passes_append passed
  obtain ⟨reached, heard, middle, last⟩ := passes_append rest
  have early : (rack.highPass.capture audio).fault = none ∧ measured.gainControl =
      rack.gainControl.measure (rack.highPass.capture audio).audio := by
    simp only [runEach, run, Pass.fault_done] at first
    split at first
    case h_1 filtering =>
      cases first
      exact ⟨filtering, rfl⟩
    case h_2 => cases first
  have untouched : reached.gainControl = measured.gainControl := by
    have others : ∀ stage ∈ betweenGain, stage ≠ .measureGain ∧ stage ≠ .applyGain := by decide
    have kept := runEach_keeps Rack.gainControl delay (fun stage member =>
      gainControl_run_of_ne (others stage member).1 (others stage member).2 delay) measured filtered
    rwa [middle] at kept
  rw [← early.2, ← untouched]
  refine ⟨early.1, heard, ?_⟩
  simp only [runEach, run, Pass.fault_done] at last
  split at last
  case h_1 applied =>
    cases last
    exact ⟨applied, rfl⟩
  case h_2 => cases last

end CaptureStage

namespace HighPass

variable {effect : HighPass} {audio : StreamBuffer}

/-- Where all channels are split into bands, filtering them leaves the full bands: the filter works
in the low ones. -/
theorem channels_capture_of_split (split : audio.channelCount ≤ audio.bands.length) :
    (effect.capture audio).audio.channels = audio.channels := by
  simp only [capture]
  split
  · rfl
  split
  · rfl
  refine (List.foldlRecOn (motive := fun reached : HighPass × StreamBuffer =>
    reached.2.channels = audio.channels ∧ reached.2.bands.length = audio.bands.length)
    audio.used _ ⟨rfl, rfl⟩ ?_).1
  rintro ⟨current, reached⟩ ⟨channels, bands⟩ channel member
  have banded : channel < reached.bands.length := by
    have inside := List.mem_range.mp member
    dsimp only at bands
    omega
  simp only [filterChannel]
  split
  · exact ⟨channels, bands⟩
  · simp only [StreamBuffer.setLowBand, List.getElem?_eq_getElem banded, List.length_set]
    exact ⟨channels, bands⟩

/-- Where no channel is split into bands, filtering the first channels replaces each of them by what
its filter makes of it, and leaves the others with their filters. -/
theorem foldl_filterChannel_of_whole (whole : audio.bands = []) {count : Nat}
    (filtered : count ≤ effect.filters.length) (room : count ≤ audio.channels.length) :
    let reached := (List.range count).foldl filterChannel (effect, audio)
    reached.2.bands = [] ∧
      (∀ channel, count ≤ channel → reached.1.filters[channel]? = effect.filters[channel]? ∧
        reached.2.channels[channel]? = audio.channels[channel]?) ∧
      ∀ channel < count, reached.2.channels[channel]? =
        effect.filters[channel]?.map fun filter => (filter.run (audio.fullBand channel)).1 := by
  induction count with
  | zero => exact ⟨whole, fun channel _ => ⟨rfl, rfl⟩, by simp⟩
  | succ count inductionHypothesis =>
    obtain ⟨bands, later, before⟩ := inductionHypothesis (by omega) (by omega)
    rw [List.range_succ, List.foldl_append]
    generalize (List.range count).foldl filterChannel (effect, audio) = reached
      at bands later before
    obtain ⟨current, now⟩ := reached
    dsimp only at bands later before
    obtain ⟨filters, channels⟩ := later count (Nat.le_refl count)
    have filter : current.filters[count]? = some effect.filters[count] :=
      filters.trans (List.getElem?_eq_getElem (by omega))
    have present : count < now.channels.length := by
      have some := channels.trans (List.getElem?_eq_getElem (by omega))
      exact (List.getElem?_eq_some_iff.mp some).1
    have same : now.lowBand count = audio.fullBand count := by
      simp [StreamBuffer.lowBand, StreamBuffer.fullBand, bands, channels,
        List.getD_eq_getElem?_getD]
    simp only [List.foldl_cons, List.foldl_nil, filterChannel, filter, StreamBuffer.setLowBand,
      bands, same, List.getElem?_nil]
    refine ⟨trivial, fun channel beyond => ?_, fun channel inside => ?_⟩
    · rw [List.getElem?_set_ne (by omega), List.getElem?_set_ne (by omega)]
      exact later channel (by omega)
    · by_cases here : channel = count
      · subst here
        rw [List.getElem?_set_self present, List.getElem?_eq_getElem (by omega)]
        rfl
      · rw [List.getElem?_set_ne (by omega)]
        exact before channel (by omega)

/-- Where no channel is split into bands, the full band of a channel is then what its filter made of
it. -/
theorem fullBand_capture_of_whole (on : effect.enabled = true) (whole : audio.bands = [])
    (filtered : audio.channelCount ≤ effect.filters.length)
    (room : audio.channelCount ≤ audio.channels.length) {channel : Nat} {filter : Filter}
    (inside : channel < audio.channelCount) (its : effect.filters[channel]? = some filter) :
    (effect.capture audio).audio.fullBand channel = (filter.run (audio.fullBand channel)).1 := by
  have enough : ¬ effect.filters.length < audio.channelCount := Nat.not_lt.mpr filtered
  obtain ⟨-, -, channels⟩ := foldl_filterChannel_of_whole whole filtered room
  have here := channels channel inside
  rw [its] at here
  simp only [capture, on, enough, if_false, Bool.not_true, Bool.false_eq_true, Pass.done]
  rw [StreamBuffer.fullBand, List.getD_eq_getElem?_getD, StreamBuffer.used, here]
  rfl

end HighPass

/-- The samples of a frame are those of its channels, provided that there is a channel. -/
theorem Frame.mem_data_iff {frame : Frame} (some_channel : 0 < frame.channelCount)
    {sample : Sample} :
    sample ∈ frame.data ↔ ∃ channel < frame.channelCount, sample ∈ frame.channel channel := by
  have period : max frame.channelCount 1 = frame.channelCount := by omega
  simp only [channel, period, List.mem_iff_getElem?, getElem?_strided some_channel]
  constructor
  · rintro ⟨place, found⟩
    refine ⟨place % frame.channelCount, Nat.mod_lt _ some_channel, place / frame.channelCount, ?_⟩
    rwa [Nat.mod_add_div]
  · rintro ⟨channel, -, index, found⟩
    exact ⟨_, found⟩

namespace Engine

variable {engine : Engine} {frame : Frame}

/-- What the gain control measures of a frame that matches: the loaded stream after the high-pass
filter. -/
def measuredStream (engine : Engine) (frame : Frame) : StreamBuffer :=
  (engine.rack.highPass.capture (engine.loadCaptured frame)).audio

/-- A gain control that is on has measured the frame that is answered, and moved its gain. -/
theorem gainControl_capture (on : engine.rack.gainControl.enabled = true)
    (done : (engine.capture frame).1.result = .ok ()) :
    engine.frameFault engine.format.inputChannels frame = none ∧
      (engine.rack.highPass.capture (engine.loadCaptured frame)).fault = none ∧
      ∃ recommended volumeIsSet, (engine.capture frame).1.state.rack.gainControl =
        { engine.rack.gainControl.measure (engine.measuredStream frame) with
          gain := (engine.rack.gainControl.measure (engine.measuredStream frame)).nextGain
          recommended
          volumeIsSet } := by
  obtain ⟨fault, -, failed, -⟩ | ⟨fault, recorder, -, -, failed, -⟩ |
    ⟨recorder, matching, -, result, state, -⟩ := engine.capture_cases frame
  · cases failed.symm.trans done
  · cases failed.symm.trans done
  · refine ⟨matching, ?_⟩
    rw [result, process_ok_iff_runEach] at done
    rw [state, (rack_process { engine with recorder } frame).1]
    rcases outcome : CaptureStage.runEach engine.delay CaptureStage.order engine.rack
      (engine.loadCaptured frame) with ⟨failure, final, left⟩
    have passed : failure = none := (congrArg Prod.fst outcome).symm.trans done
    subst passed
    obtain ⟨filtering, heard, applied, control⟩ := CaptureStage.gainControl_runEach outcome
    have stillOn :
        (engine.rack.gainControl.measure (engine.measuredStream frame)).enabled = true := by
      rw [GainControl.measure, if_pos on]
      exact on
    obtain ⟨recommended, volumeIsSet, moved⟩ := GainControl.capture_spec stillOn applied
    refine ⟨filtering, recommended, volumeIsSet, ?_⟩
    rw [← moved]
    exact (congrArg (fun ended => ended.2.1.gainControl) outcome).trans control

/-- What the gain control measures of a channel that leaves: the channel as it arrived, mixed down
if fewer channels leave, and behind the high-pass filter if that works in the full band. -/
def measuredChannel (engine : Engine) (frame : Frame) (channel : Nat) : List Sample :=
  let arrived := (engine.format.passes frame).channel channel
  if engine.rack.highPass.enabled = true ∧ engine.format.rate.isSplit = false then
    match engine.rack.highPass.filters[channel]? with
    | some filter => (filter.run arrived).1
    | none => arrived
  else arrived

/-- The full band of the loaded stream is what arrived, mixed down if fewer channels leave. -/
theorem fullBand_loadCaptured (stored : engine.Stored) (wellFormed : frame.WellFormed)
    (matching : engine.frameFault engine.format.inputChannels frame = none) {channel : Nat}
    (inside : channel < engine.format.outputChannels) :
    (engine.loadCaptured frame).fullBand channel =
      (engine.format.passes frame).channel channel := by
  have fits := frameFault_eq_none_iff.mp matching
  obtain ⟨channels, -⟩ := mixCaptured_spec stored.supported fits
  obtain ⟨-, -, count, -⟩ := Format.passes_spec stored.supported wellFormed fits
  have unsplit : (engine.loadCaptured frame).channels = (engine.mixCaptured frame).channels := by
    show ((engine.mixCaptured frame).splitChannels engine.format.inputChannels).channels = _
    rw [(StreamBuffer.splitChannels_spec _ _).2]
  rw [StreamBuffer.fullBand, unsplit, List.getD_eq_getElem?_getD,
    ← List.getElem?_take_of_lt inside, channels, Frame.channels, List.getElem?_map,
    List.getElem?_range (by omega)]
  rfl

/-- What the gain control measures, channel by channel. The loaded stream is in shape, so either all
of its channels are split or none is, and each case has its lemma above. -/
theorem fullBand_measuredStream (stored : engine.Stored) (wellFormed : frame.WellFormed)
    (matching : engine.frameFault engine.format.inputChannels frame = none)
    (filtering : (engine.rack.highPass.capture (engine.loadCaptured frame)).fault = none)
    {channel : Nat} (inside : channel < engine.format.outputChannels) :
    (engine.measuredStream frame).fullBand channel = engine.measuredChannel frame channel := by
  have arrived := fullBand_loadCaptured stored wellFormed matching inside
  have shaped := shaped_loadCaptured engine stored.supported stored.capturing wellFormed matching
  obtain ⟨count, -⟩ := loadCaptured_size engine stored.supported matching
  rw [measuredStream, measuredChannel, ← arrived]
  by_cases on : engine.rack.highPass.enabled = true
  · cases split : engine.format.rate.isSplit with
    | false =>
      have filtered : (engine.loadCaptured frame).channelCount ≤
          engine.rack.highPass.filters.length := by
        rw [HighPass.fault_capture] at filtering
        by_contra fewer
        rw [if_pos ⟨on, Nat.not_le.mp fewer⟩] at filtering
        cases filtering
      have room : (engine.loadCaptured frame).channelCount ≤
          (engine.loadCaptured frame).channels.length := by
        rw [shaped.channels.1]
        exact shaped.used.2
      have its := List.getElem?_eq_getElem (l := engine.rack.highPass.filters) (i := channel)
        (by omega)
      rw [if_pos ⟨on, rfl⟩, its]
      exact HighPass.fullBand_capture_of_whole on (shaped.bands_eq_nil split) filtered room
        (by omega) its
    | true =>
      have banded : (engine.loadCaptured frame).channelCount ≤
          (engine.loadCaptured frame).bands.length := by
        have lows := shaped.lows.1
        rw [List.length_map, Format.splitChannels, if_pos split] at lows
        rw [lows]
        exact shaped.used.2
      rw [if_neg (by simp), StreamBuffer.fullBand, HighPass.channels_capture_of_split banded]
      rfl
  · rw [if_neg (by simp [on]), HighPass.capture_of_off (by simpa using on)]
    rfl

/-- The loudest samples of what is measured decide whether the frame counts as saturated. The
measurement reads the full bands of the channels in use, which are as many as leave. -/
theorem isSaturated_capture (stored : engine.Stored) (wellFormed : frame.WellFormed)
    (on : engine.rack.gainControl.enabled = true)
    (done : (engine.capture frame).1.result = .ok ()) :
    (engine.capture frame).1.state.rack.gainControl.isSaturated = true ↔
      ∃ channel < engine.format.outputChannels, ∃ sample ∈ engine.measuredChannel frame channel,
        GainControl.saturationMagnitude ≤ sample.magnitude := by
  obtain ⟨matching, filtering, recommended, volumeIsSet, after⟩ := gainControl_capture on done
  have count : (engine.measuredStream frame).channelCount = engine.format.outputChannels :=
    (HighPass.capture_alike _ _).2.channelCount.trans
      (loadCaptured_size engine stored.supported matching).1
  rw [after]
  simp only [GainControl.measure, if_pos on, List.any_eq_true, StreamBuffer.used, List.mem_range,
    decide_eq_true_eq, count]
  refine exists_congr fun channel => and_congr_right fun inside => ?_
  rw [fullBand_measuredStream stored wellFormed matching filtering inside]

/-- Saturation is measured behind the high-pass filter. After a frame that was answered, the gain
control reports saturation exactly when some sample of what it measured reached the magnitude. This
is the frame itself, mixed down if fewer channels leave, when the high-pass filter is off or the
rate is the highest one; otherwise it is what the filter made of it. -/
theorem isSaturated_iff_measured (engine : Engine) (reached : engine.Reachable) (frame : Frame)
    (wellFormed : frame.WellFormed) (on : engine.rack.gainControl.enabled = true)
    (done : (engine.capture frame).1.result = .ok ()) :
    ((engine.capture frame).1.state.rack.gainControl.isSaturated = true ↔
      ∃ channel < engine.format.outputChannels, ∃ sample ∈ engine.measuredChannel frame channel,
        GainControl.saturationMagnitude ≤ sample.magnitude) ∧
    (engine.rack.highPass.enabled = false ∨ engine.format.rate = .superWide →
      ((engine.capture frame).1.state.rack.gainControl.isSaturated = true ↔
        ∃ sample ∈ (engine.format.passes frame).data,
          GainControl.saturationMagnitude ≤ sample.magnitude)) := by
  have stored := reached.stored
  have measured := isSaturated_capture stored wellFormed on done
  refine ⟨measured, fun outside => measured.trans ?_⟩
  obtain ⟨matching, -⟩ := gainControl_capture on done
  obtain ⟨-, -, count, -⟩ :=
    Format.passes_spec stored.supported wellFormed (frameFault_eq_none_iff.mp matching)
  have leaves := stored.supported.1
  have whole (channel : Nat) :
      engine.measuredChannel frame channel = (engine.format.passes frame).channel channel := by
    refine if_neg ?_
    rintro ⟨filtering, unsplit⟩
    rcases outside with off | split
    · cases off.symm.trans filtering
    · rw [split] at unsplit
      cases unsplit
  simp only [whole, @Frame.mem_data_iff (engine.format.passes frame) (by omega), ← count]
  constructor
  · rintro ⟨channel, inside, sample, member, loud⟩
    exact ⟨sample, ⟨channel, inside, member⟩, loud⟩
  · rintro ⟨sample, ⟨channel, inside, member⟩, loud⟩
    exact ⟨channel, inside, sample, member, loud⟩

/-- Turns the gain control on, with a gain of zero decibels. -/
def unitGain : List Call :=
  [.enable .gainControl true, .adjust (.gainMode .fixedDigital), .adjust (.compressionGain 0)]

/-- An engine for 8000 samples a second with nothing but the gain control on. -/
def unfiltered : Engine := ((blank 0 { rate := .narrow }).run unitGain).2

/-- The same engine with the high-pass filter on too. -/
def filtered : Engine :=
  ((blank 0 { rate := .narrow }).run (.enable .highPass true :: unitGain)).2

/-- A frame of samples that count as saturated. -/
def loudFrame : Frame :=
  { rate := 8000, channelCount := 1, length := 80, data := List.replicate 80 32000 }

/-- Without the high-pass filter such a frame is reported as saturated. -/
theorem isSaturated_iff_measured_unfiltered :
    unfiltered.Reachable ∧ loudFrame.WellFormed ∧ unfiltered.rack.gainControl.enabled = true ∧
      (unfiltered.capture loudFrame).1.result = .ok () ∧
      unfiltered.rack.highPass.enabled = false ∧
      (unfiltered.capture loudFrame).1.state.rack.gainControl.isSaturated = true := by
  have reached : unfiltered.Reachable :=
    ⟨{ rate := 8000 }, unitGain, blank 0 { rate := .narrow }, rfl, by decide, rfl⟩
  have wellFormed : loudFrame.WellFormed := by decide
  have done : (unfiltered.capture loudFrame).1.result = .ok () := rfl
  refine ⟨reached, wellFormed, rfl, done, rfl, ?_⟩
  exact ((isSaturated_iff_measured unfiltered reached _ wellFormed rfl done).2 (.inl rfl)).mpr
    ⟨32000, by decide +kernel⟩

/-- With the filter it is not: the filter has lowered the samples before they are measured. -/
theorem not_isSaturated_filtered :
    filtered.Reachable ∧ loudFrame.WellFormed ∧ filtered.rack.gainControl.enabled = true ∧
      (filtered.capture loudFrame).1.result = .ok () ∧
      (∃ sample ∈ (filtered.format.passes loudFrame).data,
        GainControl.saturationMagnitude ≤ sample.magnitude) ∧
      (filtered.capture loudFrame).1.state.rack.gainControl.isSaturated = false := by
  refine ⟨⟨{ rate := 8000 }, .enable .highPass true :: unitGain, blank 0 { rate := .narrow }, rfl,
    by decide, rfl⟩, by decide, rfl, rfl, ⟨32000, ?_⟩, ?_⟩
  · decide +kernel
  · decide +kernel

end Engine

end VoiceEngine
