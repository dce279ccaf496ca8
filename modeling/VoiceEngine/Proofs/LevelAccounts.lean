import Mathlib.Data.List.Induction
import VoiceEngine.Proofs.LevelSteps
import VoiceEngine.Proofs.Stored

/-!
# What the level meter accounts for

The measurement of a stream begins when the meter is prepared or when the level of that stream is
read. From then on it counts every frame of the stream that is answered, and nothing else: what one
call does to the meter says so of a run, call by call from the end.
-/

namespace VoiceEngine

namespace Moment

open LevelMeter (Stream)

/-- The engine after the call. -/
def after (moment : Moment) : Engine := (moment.engine.perform moment.call).state

/-- The call begins a new measurement of a stream: it prepares the meter, or it reads the level of
the stream and is answered. -/
def Begins (stream : Stream) (moment : Moment) : Prop :=
  moment.engine.prepares moment.call .levelMeter = true ∨
    moment.call = stream.reading ∧ (moment.engine.perform moment.call).result.isOk = true

/-- The call hands over a frame of a stream and is answered. -/
def Measures (stream : Stream) (moment : Moment) : Prop :=
  (stream.frame? moment.call).isSome = true ∧
    (moment.engine.perform moment.call).result.isOk = true

instance (stream : Stream) (moment : Moment) : Decidable (moment.Measures stream) :=
  inferInstanceAs (Decidable (_ ∧ _))

/-- The samples of one band in all channels of a frame that is answered. -/
def samples (stream : Stream) (moment : Moment) : Nat :=
  if moment.Measures stream then
    stream.channels moment.engine.format * moment.engine.format.bandLength
  else 0

/-- The audio of a frame as all stages but the level meter leave it: captured audio goes through
them, and to audio on its way to the loudspeaker they only listen. -/
def audio (stream : Stream) (moment : Moment) : StreamBuffer :=
  let engine := moment.engine
  match stream, moment.call with
  | .captured, .capture frame =>
    (CaptureStage.runEach engine.delay CaptureStage.beforeLevelMeter engine.rack
      (engine.loadCaptured frame)).2.2
  | .rendered, .render frame => (engine.rendering.load frame).splitChannels frame.channelCount
  | _, _ => stream.storage engine

/-- The energy of all channels of a frame that is answered, as its audio is stored: in both bands at
the rate that is split. -/
def energy (stream : Stream) (moment : Moment) : Nat :=
  if moment.Measures stream then
    let format := moment.engine.format
    ((List.range (stream.channels format)).map
      ((moment.audio stream).storedEnergy format.rate)).sum
  else 0

end Moment

/-- What a measurement reads of a channel of shaped storage is all that is stored of it: the low
band and, at the rate that is split, the high band. At other rates there is no high band to read. -/
theorem StreamBuffer.Shaped.energy_eq {audio : StreamBuffer} {format : Format}
    (shaped : audio.Shaped format) {channel : Nat} (inside : channel < maxChannels) :
    audio.energy channel = audio.storedEnergy format.rate channel := by
  simp only [energy, storedEnergy, lowBand, highBand?, List.getD_eq_getElem?_getD]
  cases banded : audio.bands[channel]? with
  | none =>
    have whole := shaped.not_isSplit_of_bands inside banded
    cases rate : format.rate with
    | narrow => rfl
    | wide => rfl
    | superWide =>
      rw [rate] at whole
      cases whole
  | some pair =>
    have split := shaped.isSplit_of_bands banded
    cases rate : format.rate with
    | superWide => rfl
    | _ =>
      rw [rate] at split
      cases split

namespace Engine

open LevelMeter (Stream)

variable {engine : Engine} {call : Call}

/-- Storage keeps a frame that is answered in the channels of its stream. Captured audio has been
mixed down to these; audio to the loudspeaker arrives in them. -/
theorem channelCount_of_measures (supported : engine.format.Supported) {stream : Stream}
    (measures : Moment.Measures stream ⟨engine, call⟩) :
    (stream.storage (engine.perform call).state).channelCount =
      stream.channels engine.format := by
  obtain ⟨handed, answered⟩ := measures
  cases stream with
  | captured =>
    cases call with
    | capture frame =>
      rw [perform, isOk_replying] at answered
      rcases capture_cases engine frame with ⟨fault, -, result, -, -⟩ |
        ⟨fault, recorder, -, -, result, -, -⟩ | ⟨recorder, matching, -, -, state, -⟩
      · rw [result] at answered
        cases answered
      · rw [result] at answered
        cases answered
      · have loaded := (loadCaptured_size { engine with recorder } supported matching).1
        have kept := channelCount_process { engine with recorder } frame
        exact (congrArg (fun engine => engine.capturing.channelCount) state).trans
          (kept.trans loaded)
    | _ => cases handed
  | rendered =>
    cases call with
    | render frame =>
      rw [perform, isOk_replying] at answered
      obtain ⟨count, kept⟩ := rendering_render answered
      have loaded : ((engine.rendering.load frame).splitChannels
          frame.channelCount).channelCount = frame.channelCount := by simp
      exact (congrArg StreamBuffer.channelCount kept).trans (loaded.trans count)
    | _ => cases handed

/-- The audio of a frame that is answered has the shape of the format, which the stages keep. -/
theorem shaped_audio (stored : engine.Stored) (wellFormed : call.WellFormed) {stream : Stream}
    (measures : Moment.Measures stream ⟨engine, call⟩) :
    (Moment.audio stream ⟨engine, call⟩).Shaped engine.format := by
  obtain ⟨handed, answered⟩ := measures
  cases stream with
  | captured =>
    cases call with
    | capture frame =>
      rw [perform, isOk_replying] at answered
      have matching : engine.frameFault engine.format.inputChannels frame = none := by
        rcases capture_cases engine frame with ⟨fault, -, result, -, -⟩ | ⟨_, _, matching, -⟩ |
          ⟨_, matching, -⟩
        · rw [result] at answered
          cases answered
        · exact matching
        · exact matching
      have loaded := shaped_loadCaptured engine stored.supported stored.capturing wellFormed
        matching
      exact (CaptureStage.runEach_alike engine.delay engine.rack (engine.loadCaptured frame)
        CaptureStage.beforeLevelMeter).2.shaped engine.format loaded
    | _ => cases handed
  | rendered =>
    cases call with
    | render frame =>
      rw [perform, isOk_replying] at answered
      have matching : engine.frameFault engine.format.reverseChannels frame = none := by
        rcases render_cases engine frame with ⟨fault, -, result, -⟩ | ⟨_, _, matching, -⟩ |
          ⟨_, matching, -⟩
        · rw [result] at answered
          cases answered
        · exact matching
        · exact matching
      exact shaped_loadRendered engine stored.supported stored.rendering wellFormed matching
    | _ => cases handed

/-- Storage keeps the bands of a frame that is answered as the other stages leave them. The level
meter is the last stage and only reads, and merging the bands afterwards writes to the full band. -/
theorem bands_of_measures {stream : Stream} (measures : Moment.Measures stream ⟨engine, call⟩)
    (channel : Nat) :
    let kept := stream.storage (engine.perform call).state
    let audio := Moment.audio stream ⟨engine, call⟩
    kept.lowBand channel = audio.lowBand channel ∧
      kept.highBand? channel = audio.highBand? channel := by
  obtain ⟨handed, answered⟩ := measures
  intro kept audio
  cases stream with
  | captured =>
    cases call with
    | capture frame =>
      rw [perform, isOk_replying] at answered
      exact bands_capture answered channel
    | _ => cases handed
  | rendered =>
    cases call with
    | render frame =>
      rw [perform, isOk_replying] at answered
      have same : kept = audio := (rendering_render answered).2
      rw [same]
      exact ⟨rfl, rfl⟩
    | _ => cases handed

end Engine

namespace Moment

open LevelMeter (Stream Measurement)

variable {moment : Moment} {stream : Stream}

/-- A frame leaves the format, as does every call without a target that is not a switch. -/
theorem format_of_measures (measures : moment.Measures stream) :
    moment.after.format = moment.engine.format := by
  obtain ⟨engine, call⟩ := moment
  have handed := measures.1
  have untargeted : call.target? engine.format = none := by
    cases call <;> cases stream <;> first | rfl | cases handed
  rcases engine.perform_of_no_target untargeted with ⟨kind, enabled, rfl⟩ | ⟨same, -⟩
  · cases stream <;> cases handed
  · exact same

/-- A frame that is answered adds its samples and its energy to the measurement. The meter reads the
storage, so this compares the storage behind the frame with the audio before the meter, in the
number of channels, their lengths and their energies. -/
theorem accounts_hear (stored : moment.engine.Stored) (wellFormed : moment.call.WellFormed)
    (measures : moment.Measures stream) {measurement : Measurement} {count energy : Nat}
    (known : measurement.Accounts count energy) :
    (measurement.add (stream.storage moment.after)).Accounts (count + moment.samples stream)
      (energy + moment.energy stream) := by
  have channels : (stream.storage moment.after).channelCount =
      stream.channels moment.engine.format :=
    Engine.channelCount_of_measures stored.supported measures
  have shaped : (stream.storage moment.after).Shaped moment.engine.format := by
    have later := stored.perform wellFormed
    rw [← format_of_measures measures]
    cases stream with
    | captured => exact later.capturing
    | rendered => exact later.rendering
  have lengths : (List.range (stream.channels moment.engine.format)).map
        (fun channel => ((stream.storage moment.after).lowBand channel).length) =
      List.replicate (stream.channels moment.engine.format) moment.engine.format.bandLength := by
    rw [← channels]
    apply List.eq_replicate_iff.mpr
    constructor
    · rw [List.length_map, List.length_range]
    · intro length member
      obtain ⟨channel, inside, rfl⟩ := List.mem_map.mp member
      exact shaped.length_lowBand (shaped.lt_of_mem_used inside)
  have energies : (List.range (stream.channels moment.engine.format)).map
        (stream.storage moment.after).energy =
      (List.range (stream.channels moment.engine.format)).map
        ((moment.audio stream).storedEnergy moment.engine.format.rate) := by
    refine List.map_congr_left ?_
    intro channel member
    rw [← channels] at member
    obtain ⟨low, high⟩ := Engine.bands_of_measures measures channel
    have audible := Engine.shaped_audio stored wellFormed measures
    exact (StreamBuffer.energy_congr low high).trans
      (audible.energy_eq (shaped.lt_of_mem_used member))
  have added := known.add (stream.storage moment.after)
  rw [StreamBuffer.used, channels, lengths, List.sum_replicate_nat, energies] at added
  rw [samples, Moment.energy, if_pos measures, if_pos measures]
  exact added

/-- A call without an answered frame of the stream leaves what is accounted for, as it has neither
samples nor energy. -/
theorem accounts_idle (idle : ¬ moment.Measures stream)
    (same : stream.measurement moment.after.rack.levelMeter =
      stream.measurement moment.engine.rack.levelMeter) {count energy : Nat}
    (known : (stream.measurement moment.engine.rack.levelMeter).Accounts count energy) :
    (stream.measurement moment.after.rack.levelMeter).Accounts (count + moment.samples stream)
      (energy + moment.energy stream) := by
  rw [samples, Moment.energy, if_neg idle, if_neg idle, same]
  exact known

/-- A call that hands over a frame begins no measurement. -/
theorem not_begins_of_frame? {heard : Stream} {frame : Frame}
    (its : heard.frame? moment.call = some frame) : ¬ moment.Begins stream := by
  rintro (prepares | ⟨reads, -⟩)
  · rw [Stream.prepares_of_frame? its] at prepares
    cases prepares
  · rw [reads, Stream.frame?_reading] at its
    cases its

/-- A call that reads the level of another stream begins no measurement of this one. -/
theorem not_begins_of_reading {read : Stream} (its : moment.call = read.reading)
    (other : stream ≠ read) : ¬ moment.Begins stream := by
  rintro (prepares | ⟨reads, -⟩)
  · rw [its, Stream.prepares_reading] at prepares
    cases prepares
  · exact other (Stream.reading_injective (reads.symm.trans its))

/-- A call after which the meter is on begins a new measurement of a stream, or the meter was on
before and the measurement accounts for what the call adds.

Proof: the cases are those of what a call does to the meter: it is prepared, read, handed a frame,
or left alone. Reading and hearing concern one stream, so for each of them it is asked whether it is
this one. -/
theorem accounts_after (moment : Moment) (stored : moment.engine.Stored)
    (wellFormed : moment.call.WellFormed)
    (on : moment.after.rack.levelMeter.enabled = true) (stream : Stream) :
    moment.Begins stream ∧ stream.measurement moment.after.rack.levelMeter = {} ∨
    ¬ moment.Begins stream ∧ moment.engine.rack.levelMeter.enabled = true ∧
      ∀ count energy,
        (stream.measurement moment.engine.rack.levelMeter).Accounts count energy →
        (stream.measurement moment.after.rack.levelMeter).Accounts (count + moment.samples stream)
          (energy + moment.energy stream) := by
  rcases moment.engine.meterStep moment.call with ⟨prepares, same⟩ | ⟨read, its, wasOn, same⟩ |
    ⟨heard, frame, its, done, same⟩ | ⟨unprepared, unread, silent, same⟩
  · have new : stream.measurement moment.after.rack.levelMeter = {} := by
      rw [after, same]
      cases stream <;> rfl
    exact .inl ⟨.inl prepares, new⟩
  · have renewed : stream.measurement moment.after.rack.levelMeter =
        if stream = read then {} else stream.measurement moment.engine.rack.levelMeter := by
      rw [after, same, Stream.measurement_renew]
    by_cases mine : stream = read
    · subst mine
      have answered : (moment.engine.perform moment.call).result.isOk = true := by
        rw [its, (moment.engine.perform_reading stream).1, wasOn]
      exact .inl ⟨.inr ⟨its, answered⟩, renewed.trans (if_pos rfl)⟩
    · have idle : ¬ moment.Measures stream := by
        rintro ⟨handed, -⟩
        rw [its, Stream.frame?_reading] at handed
        cases handed
      refine .inr ⟨not_begins_of_reading its mine, wasOn, ?_⟩
      intro count energy known
      exact accounts_idle idle (renewed.trans (if_neg mine)) known
  · have wasOn : moment.engine.rack.levelMeter.enabled = true := by
      rwa [after, same, Stream.enabled_hear] at on
    have added : stream.measurement moment.after.rack.levelMeter =
        if stream = heard then
          (stream.measurement moment.engine.rack.levelMeter).add (heard.storage moment.after)
        else stream.measurement moment.engine.rack.levelMeter := by
      rw [after, same, Stream.measurement_hear wasOn]
    refine .inr ⟨not_begins_of_frame? its, wasOn, ?_⟩
    intro count energy known
    by_cases mine : stream = heard
    · subst mine
      have measures : moment.Measures stream := ⟨by rw [its]; rfl, done⟩
      rw [added, if_pos rfl]
      exact accounts_hear stored wellFormed measures known
    · have idle : ¬ moment.Measures stream := by
        rintro ⟨handed, -⟩
        exact mine (Stream.eq_of_frame? its handed)
      exact accounts_idle idle (added.trans (if_neg mine)) known
  · have unchanged : moment.after.rack.levelMeter = moment.engine.rack.levelMeter := same on
    have wasOn : moment.engine.rack.levelMeter.enabled = true := by rwa [unchanged] at on
    have kept : ¬ moment.Begins stream := by
      rintro (prepares | ⟨its, -⟩)
      · rw [unprepared] at prepares
        cases prepares
      · rw [unread stream its] at wasOn
        cases wasOn
    have idle : ¬ moment.Measures stream := by
      rintro ⟨handed, answered⟩
      rw [silent stream handed] at answered
      cases answered
    refine .inr ⟨kept, wasOn, ?_⟩
    intro count energy known
    exact accounts_idle idle (congrArg stream.measurement unchanged) known

end Moment

namespace Engine

open LevelMeter (Stream)

/-- One more call is one more moment. -/
theorem moments_concat (engine : Engine) (calls : List Call) (call : Call) :
    engine.moments (calls ++ [call]) = engine.moments calls ++ [⟨(engine.run calls).2, call⟩] := by
  induction calls generalizing engine with
  | nil => rfl
  | cons first calls inductionHypothesis =>
    rw [List.cons_append, moments, moments, inductionHypothesis]
    rfl

/-- A run with one more call ends as the call does. -/
theorem state_run_concat (engine : Engine) (calls : List Call) (call : Call) :
    (engine.run (calls ++ [call])).2 = ((engine.run calls).2.perform call).state := by
  rw [run_append]
  rfl

/-- The measurement of a stream accounts for the calls of a run since the last that began it. That
there is such a call is part of it: a meter that is on was prepared at some time. -/
def Accounted (stream : Stream) (moments : List Moment) (meter : LevelMeter) : Prop :=
  ∃ before start after, moments = before ++ start :: after ∧ start.Begins stream ∧
    (∀ later ∈ after, ¬ later.Begins stream) ∧
    (stream.measurement meter).Accounts (after.map (Moment.samples stream)).sum
      (after.map (Moment.energy stream)).sum

/-- After every run from a new engine a meter that is on is accounted for. Induct along the run from
its end: the last call begins the measurement, or adds to what the calls before account for. -/
theorem accounted_run {blueprint : Blueprint} {created : Engine}
    (made : (create blueprint).1 = .ok created) (calls : List Call)
    (wellFormed : ∀ call ∈ calls, call.WellFormed) (stream : Stream)
    (on : (created.run calls).2.rack.levelMeter.enabled = true) :
    Accounted stream (created.moments calls) (created.run calls).2.rack.levelMeter := by
  induction calls using List.reverseRecOn with
  | nil =>
    obtain ⟨format, -, rfl⟩ := create_eq_ok made
    cases on
  | append_singleton calls call inductionHypothesis =>
    have earlier : ∀ call ∈ calls, call.WellFormed := by
      intro other member
      exact wellFormed other (List.mem_append_left [call] member)
    have last : call.WellFormed := wellFormed call (List.mem_append_right calls List.mem_cons_self)
    have reached : (created.run calls).2.Reachable :=
      ⟨blueprint, calls, created, made, earlier, rfl⟩
    rw [state_run_concat] at on ⊢
    rw [moments_concat]
    rcases Moment.accounts_after ⟨(created.run calls).2, call⟩ reached.stored last on stream with
      ⟨begins, new⟩ | ⟨kept, wasOn, added⟩
    · refine ⟨created.moments calls, _, [], rfl, begins, ?_, ?_⟩
      · intro later member
        cases member
      · have nothing := LevelMeter.Measurement.accounts_new
        rw [← new] at nothing
        exact nothing
    · obtain ⟨before, start, after, cut, begins, apart, known⟩ := inductionHypothesis earlier wasOn
      refine ⟨before, start, after ++ [⟨(created.run calls).2, call⟩], ?_, begins, ?_, ?_⟩
      · rw [cut, List.append_assoc, List.cons_append]
      · intro later member
        rcases List.mem_append.mp member with old | isLast
        · exact apart later old
        · rw [List.mem_singleton.mp isLast]
          exact kept
      · have sums := added _ _ known
        rw [List.map_append, List.sum_append, List.map_append, List.sum_append, List.map_singleton,
          List.sum_singleton, List.map_singleton, List.sum_singleton]
        exact sums

/-- The level meter accounts for exactly the frames that are answered. While the meter is on, the
measurement of a stream began with a call of the run, the last that prepared the meter or read the
level of that stream and was answered. The samples that it counts are those of one band of every
channel in the frames of the stream that were answered since. Its sum of squares is their energy in
both bands, as the other stages left them, as long as that is below the limit of exact sums. Reading
the level of the other stream changes neither. -/
theorem level_accounts {blueprint : Blueprint} {created : Engine}
    (made : (create blueprint).1 = .ok created) (calls : List Call)
    (wellFormed : ∀ call ∈ calls, call.WellFormed) (stream : Stream) :
    let engine := (created.run calls).2
    let measurement := stream.measurement engine.rack.levelMeter
    (engine.rack.levelMeter.enabled = true →
      ∃ before start after, created.moments calls = before ++ start :: after ∧
        start.Begins stream ∧ (∀ later ∈ after, ¬ later.Begins stream) ∧
        measurement.sampleCount = (after.map (Moment.samples stream)).sum ∧
        ((after.map (Moment.energy stream)).sum < 2 ^ 53 →
          measurement.sumOfSquares = (after.map (Moment.energy stream)).sum)) ∧
    ∀ other : Stream, other ≠ stream →
      stream.measurement (engine.perform other.reading).state.rack.levelMeter = measurement := by
  intro engine measurement
  constructor
  · intro on
    obtain ⟨before, start, after, cut, begins, apart, known⟩ :=
      accounted_run made calls wellFormed stream on
    exact ⟨before, start, after, cut, begins, apart, known.sampleCount, known.sumOfSquares⟩
  · intro other different
    have read := (engine.perform_reading other).2
    by_cases on : engine.rack.levelMeter.enabled = true
    · rw [if_pos on] at read
      rw [read, Stream.measurement_renew, if_neg (Ne.symm different)]
    · rw [if_neg on] at read
      rw [read]

/-- A frame at the rate that is split, with samples that fall into both bands. -/
def steppedFrame : Frame :=
  { rate := 32000, channelCount := 1, length := 320
    data := (List.range 320).map fun instant => if instant % 4 < 2 then 1000 else -600 }

/-- A frame at another rate. -/
def foreignFrame : Frame :=
  { rate := 8000, channelCount := 1, length := 80, data := List.replicate 80 500 }

/-- A run that switches the meter on and hands over a frame that is refused and one that is
answered. -/
def meteredCalls : List Call :=
  [.setRate 32000, .enable .levelMeter true, .capture foreignFrame, .capture steppedFrame]

/-- Only the second frame counts, with the samples of one band and the energy of both. -/
theorem level_accounts_metered :
    let engine := ((blank 0 {}).run meteredCalls).2
    ((create {}).1 = .ok (blank 0 {}) ∧ (∀ call ∈ meteredCalls, call.WellFormed) ∧
      engine.rack.levelMeter.enabled = true) ∧
    (engine.capturing.bands.map fun pair => (Level.energy pair.low, Level.energy pair.high)) =
      [(64497782, 9675188), (0, 0)] ∧
    (Stream.captured.measurement engine.rack.levelMeter).sampleCount = 160 ∧
    (Stream.captured.measurement engine.rack.levelMeter).sumOfSquares = 64497782 + 9675188 := by
  intro engine
  have made : (create {}).1 = .ok (blank 0 {}) := rfl
  have wellFormed : ∀ call ∈ meteredCalls, call.WellFormed := by decide +kernel
  have on : engine.rack.levelMeter.enabled = true := by decide +kernel
  obtain ⟨before, start, after, cut, begins, -, count, energy⟩ :=
    (level_accounts made meteredCalls wellFormed .captured).1 on
  -- Only the second call can have begun the measurement: the meter was off before.
  have rest : after = ((blank 0 {}).moments meteredCalls).drop 2 := by
    rcases before with _ | ⟨first, _ | ⟨second, _ | ⟨third, _ | ⟨fourth, before⟩⟩⟩⟩
    · cases cut
      rcases begins with prepares | ⟨its, -⟩
      · cases prepares
      · cases its
    · rw [cut]
      rfl
    · cases cut
      rcases begins with prepares | ⟨its, -⟩
      · cases prepares
      · cases its
    · cases cut
      rcases begins with prepares | ⟨its, -⟩
      · cases prepares
      · cases its
    · have length := congrArg List.length cut
      simp [moments, meteredCalls] at length
  subst rest
  refine ⟨⟨made, wellFormed, on⟩, ?_, count.trans ?_, (energy ?_).trans ?_⟩
  all_goals decide +kernel

end Engine

end VoiceEngine
