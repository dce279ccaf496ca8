import VoiceEngine.Proofs.FreshFrames
import VoiceEngine.Proofs.LevelSums
import VoiceEngine.Proofs.Reports

/-!
# What a call does to the level meter

The meter comes last in both orders of stages, so a frame that is refused, that cannot be recorded
or that any other stage fails on never gets to it, and the bands that it measures are those that the
other stages leave and the storage keeps.

Each stream has its own measurement, its own calls and its own storage; `LevelMeter.Stream` brings
them together. A call does one of four things to the meter, and `Engine.MeterStep` tells which: it
prepares the meter, reads the level of a stream, hands over a frame that is answered, or does
nothing but switch the meter.
-/

namespace VoiceEngine

namespace StreamBuffer

/-- Merging a channel leaves its bands, and those of the others. -/
theorem bands_mergeChannel (buffer : StreamBuffer) (merged channel : Nat) :
    (buffer.mergeChannel merged).lowBand channel = buffer.lowBand channel ∧
      (buffer.mergeChannel merged).highBand? channel = buffer.highBand? channel := by
  simp only [mergeChannel]
  cases banded : buffer.bands[merged]? with
  | none => exact ⟨rfl, rfl⟩
  | some pair =>
    have inside := (List.getElem?_eq_some_iff.mp banded).1
    by_cases same : channel = merged
    · subst same
      simp only [lowBand, highBand?, List.getElem?_set_self inside, banded, Option.map_some]
      exact ⟨trivial, trivial⟩
    · have apart : merged ≠ channel := Ne.symm same
      simp only [lowBand, highBand?, fullBand, List.getElem?_set_ne apart,
        List.getD_eq_getElem?_getD]
      exact ⟨trivial, trivial⟩

/-- Merging channels leaves the bands of all of them. -/
theorem bands_mergeChannels (buffer : StreamBuffer) (count channel : Nat) :
    (buffer.mergeChannels count).lowBand channel = buffer.lowBand channel ∧
      (buffer.mergeChannels count).highBand? channel = buffer.highBand? channel := by
  refine List.foldlRecOn (motive := fun now : StreamBuffer =>
    now.lowBand channel = buffer.lowBand channel ∧
      now.highBand? channel = buffer.highBand? channel) (List.range count) _ ⟨rfl, rfl⟩ ?_
  intro now known merged _
  obtain ⟨low, high⟩ := now.bands_mergeChannel merged channel
  exact ⟨low.trans known.1, high.trans known.2⟩

end StreamBuffer

namespace CaptureStage

/-- The stages that come before the level meter, all others. -/
def beforeLevelMeter : List CaptureStage := order.takeWhile (· ≠ .levelMeter)

/-- Stages that do not belong to the level meter leave it as it is. -/
theorem levelMeter_run_of_ne {stage : CaptureStage} (other : stage ≠ .levelMeter)
    (delay : StreamDelay) (rack : Rack) (audio : StreamBuffer) :
    (stage.run delay rack audio).effect.levelMeter = rack.levelMeter := by
  cases stage with
  | levelMeter => exact absurd rfl other
  | snapshot =>
    simp only [run]
    split <;> rfl
  | _ => rfl

/-- The level meter measures what the stages leave when none of them fails, and nothing when one
does. -/
theorem levelMeter_runEach (delay : StreamDelay) (rack : Rack) (audio : StreamBuffer) :
    let stages := runEach delay order rack audio
    stages.2.1.levelMeter =
      if stages.1 = none then rack.levelMeter.capture stages.2.2 else rack.levelMeter := by
  have parts : order = beforeLevelMeter ++ [.levelMeter] := rfl
  have elsewhere : ∀ stage ∈ beforeLevelMeter, stage ≠ .levelMeter := by decide
  have early := runEach_keeps Rack.levelMeter delay
    (fun stage member => levelMeter_run_of_ne (elsewhere stage member) delay) rack audio
  rw [parts, runEach_append]
  rcases outcome : runEach delay beforeLevelMeter rack audio with ⟨failure, reached, heard⟩
  rw [outcome] at early
  dsimp only at early
  cases failure with
  | some failure => exact early
  | none =>
    rw [← early]
    rfl

end CaptureStage

/-- The level meter measures a frame to the loudspeaker when no stage fails. -/
theorem RenderStage.levelMeter_runEach (audio : StreamBuffer) (rack : Rack) :
    let stages := runEach audio order rack
    stages.2.levelMeter =
      if stages.1 = none then rack.levelMeter.render audio else rack.levelMeter := by
  intro stages
  cases first : rack.echoCanceller.render audio with
  | error fault => simp [stages, order, runEach, run, first, Except.map]
  | ok canceller =>
    cases second : rack.mobileEchoControl.render audio with
    | error fault => simp [stages, order, runEach, run, first, second, Except.map]
    | ok mobile => simp [stages, order, runEach, run, first, second, Except.map]

namespace LevelMeter

/-- A stream that the meter measures. -/
inductive Stream
  | captured
  | rendered
  deriving DecidableEq

namespace Stream

/-- The measurement of a stream. -/
def measurement (meter : LevelMeter) : Stream → Measurement
  | captured => meter.captured
  | rendered => meter.rendered

/-- The meter after a frame of a stream. -/
def hear (meter : LevelMeter) (audio : StreamBuffer) : Stream → LevelMeter
  | captured => meter.capture audio
  | rendered => meter.render audio

/-- The meter after a new measurement of a stream began. -/
def renew (meter : LevelMeter) : Stream → LevelMeter
  | captured => { meter with captured := {} }
  | rendered => { meter with rendered := {} }

/-- The call that reads the level of a stream. -/
def reading : Stream → Call
  | captured => .takeCapturedLevel
  | rendered => .takeRenderedLevel

/-- The frame that a call hands over to a stream. -/
def frame? : Stream → Call → Option Frame
  | captured, .capture frame => some frame
  | rendered, .render frame => some frame
  | _, _ => none

/-- The storage of a stream. -/
def storage (engine : Engine) : Stream → StreamBuffer
  | captured => engine.capturing
  | rendered => engine.rendering

/-- The channels of a stream that are measured: those that leave, or those that go to the
loudspeaker. -/
def channels (format : Format) : Stream → Nat
  | captured => format.outputChannels
  | rendered => format.reverseChannels

variable {stream other : Stream} {meter : LevelMeter} {call : Call} {frame : Frame}

/-- Reading a level hands over no frame. -/
theorem frame?_reading (stream other : Stream) : stream.frame? other.reading = none := by
  cases stream <;> cases other <;> rfl

/-- Every stream has its own call to read its level. -/
theorem reading_injective (same : stream.reading = other.reading) : stream = other := by
  cases stream <;> cases other <;> first | rfl | cases same

/-- A call of no stream: it neither reads a level nor hands over a frame. -/
def isApart : Call → Bool
  | .capture _ | .render _ | .takeCapturedLevel | .takeRenderedLevel => false
  | _ => true

/-- Such a call is none of a stream's. -/
theorem of_isApart (apart : isApart call = true) (stream : Stream) :
    call ≠ stream.reading ∧ stream.frame? call = none := by
  constructor
  · rintro rfl
    cases stream <;> cases apart
  · cases call <;> cases stream <;> first | rfl | cases apart

/-- A frame is handed over to one stream. -/
theorem eq_of_frame? (its : other.frame? call = some frame)
    (also : (stream.frame? call).isSome = true) : stream = other := by
  cases stream with
  | captured =>
    cases other with
    | captured => rfl
    | rendered => cases call <;> cases its; cases also
  | rendered =>
    cases other with
    | captured => cases call <;> cases its; cases also
    | rendered => rfl

/-- A call that hands over a frame prepares no effect. -/
theorem prepares_of_frame? (its : stream.frame? call = some frame) (engine : Engine)
    (kind : EffectKind) : engine.prepares call kind = false := by
  cases stream with
  | captured => cases call <;> cases its; rfl
  | rendered => cases call <;> cases its; rfl

/-- A call that reads a level prepares no effect. -/
theorem prepares_reading (engine : Engine) (stream : Stream) (kind : EffectKind) :
    engine.prepares stream.reading kind = false := by
  cases stream <;> rfl

/-- A new measurement of a stream is empty and leaves the other. -/
theorem measurement_renew (meter : LevelMeter) (stream other : Stream) :
    stream.measurement (other.renew meter) =
      if stream = other then {} else stream.measurement meter := by
  cases stream <;> cases other <;> rfl

/-- A meter that is on adds a frame to the measurement of its stream and leaves the other. -/
theorem measurement_hear (on : meter.enabled = true) (audio : StreamBuffer)
    (stream other : Stream) :
    stream.measurement (other.hear meter audio) =
      if stream = other then (stream.measurement meter).add audio
      else stream.measurement meter := by
  cases stream <;> cases other <;> simp [measurement, hear, capture, render, on]

/-- Hearing a frame does not switch the meter. -/
theorem enabled_hear (meter : LevelMeter) (audio : StreamBuffer) (stream : Stream) :
    (stream.hear meter audio).enabled = meter.enabled := by
  cases stream with
  | captured =>
    simp only [hear, capture]
    split <;> rfl
  | rendered =>
    simp only [hear, render]
    split <;> rfl

end Stream

end LevelMeter

/-- Merging does not change what is measured. -/
theorem LevelMeter.capture_mergeChannels (meter : LevelMeter) (audio : StreamBuffer) (count : Nat) :
    meter.capture (audio.mergeChannels count) = meter.capture audio := by
  have same : meter.captured.add (audio.mergeChannels count) = meter.captured.add audio :=
    Measurement.add_congr meter.captured (audio.channelCount_mergeChannels count)
      (fun channel => (audio.bands_mergeChannels count channel).1)
      (fun channel => (audio.bands_mergeChannels count channel).2)
  simp only [capture, same]

/-- A value that an effect takes leaves the level meter, which has no settings. -/
theorem Rack.levelMeter_adjust {rack next : Rack} {setting : Setting}
    (taken : rack.adjust setting = .ok next) : next.levelMeter = rack.levelMeter := by
  cases adjusted taken <;> rfl

/-- Preparing another effect leaves the level meter. -/
theorem Rack.levelMeter_prepare_of_ne {rack next : Rack} {format : Format} {kind : EffectKind}
    (prepared : rack.prepare format kind = .ok next) (other : kind ≠ .levelMeter) :
    next.levelMeter = rack.levelMeter := by
  cases kind with
  | levelMeter => exact absurd rfl other
  | mobileEchoControl =>
    rw [Rack.prepare_mobileEchoControl] at prepared
    obtain ⟨effect, -, rfl⟩ := exists_of_map_eq_ok prepared
    rfl
  | _ =>
    cases prepared
    rfl

/-- Switching another effect leaves the level meter. -/
theorem Rack.levelMeter_switch_of_ne (rack : Rack) (enabled : Bool) {kind : EffectKind}
    (other : kind ≠ .levelMeter) : (rack.switch enabled kind).levelMeter = rack.levelMeter := by
  cases kind <;> first | rfl | exact absurd rfl other

/-- Switching a meter on that is on leaves it. -/
theorem Rack.switch_levelMeter_of_on {rack : Rack} (on : rack.levelMeter.enabled = true) :
    (rack.switch true .levelMeter).levelMeter = rack.levelMeter := by
  simp only [switch]
  rw [← on]

namespace Engine

open LevelMeter (Stream)

variable {engine : Engine} {call : Call}

/-- The meter measures a frame that no stage fails on, as the storage keeps it. -/
theorem levelMeter_process (engine : Engine) (frame : Frame) :
    ((engine.process frame).1.result.isOk = true →
      (engine.process frame).1.state.rack.levelMeter =
        engine.rack.levelMeter.capture (engine.process frame).1.state.capturing) ∧
    ((engine.process frame).1.result.isOk = false →
      (engine.process frame).1.state.rack.levelMeter = engine.rack.levelMeter) := by
  have stages := CaptureStage.levelMeter_runEach engine.delay engine.rack
    (engine.loadCaptured frame)
  simp only [process]
  split
  case h_1 outcome =>
    rw [outcome] at stages
    refine ⟨?_, fun _ => stages⟩
    intro answered
    cases answered
  case h_2 audio outcome =>
    rw [outcome] at stages
    have merged := engine.rack.levelMeter.capture_mergeChannels audio engine.format.outputChannels
    refine ⟨fun _ => stages.trans merged.symm, ?_⟩
    intro failed
    cases failed

/-- The meter measures a captured frame that is answered, as the storage keeps it, and no other. -/
theorem levelMeter_capture (engine : Engine) (frame : Frame) :
    ((engine.capture frame).1.result.isOk = true →
      (engine.capture frame).1.state.rack.levelMeter =
        engine.rack.levelMeter.capture (engine.capture frame).1.state.capturing) ∧
    ((engine.capture frame).1.result.isOk = false →
      (engine.capture frame).1.state.rack.levelMeter = engine.rack.levelMeter) := by
  rcases capture_cases engine frame with ⟨fault, -, result, state, -⟩ |
    ⟨fault, recorder, -, -, result, state, -⟩ | ⟨recorder, -, -, result, state, -⟩
  · rw [result, state]
    refine ⟨?_, fun _ => rfl⟩
    intro answered
    cases answered
  · rw [result, state]
    refine ⟨?_, fun _ => rfl⟩
    intro answered
    cases answered
  · rw [result, state]
    exact levelMeter_process { engine with recorder } frame

/-- The meter measures a frame to the loudspeaker that no stage fails on, as the storage keeps
it. -/
theorem levelMeter_observe (engine : Engine) (frame : Frame) :
    ((observe engine frame).result.isOk = true →
      (observe engine frame).state.rack.levelMeter =
        engine.rack.levelMeter.render (observe engine frame).state.rendering) ∧
    ((observe engine frame).result.isOk = false →
      (observe engine frame).state.rack.levelMeter = engine.rack.levelMeter) := by
  have stages := RenderStage.levelMeter_runEach
    ((engine.rendering.load frame).splitChannels frame.channelCount) engine.rack
  simp only [observe]
  split
  case h_1 outcome =>
    rw [outcome] at stages
    refine ⟨?_, fun _ => stages⟩
    intro answered
    cases answered
  case h_2 outcome =>
    rw [outcome] at stages
    refine ⟨fun _ => stages, ?_⟩
    intro failed
    cases failed

/-- The meter measures a frame to the loudspeaker that is answered, as the storage keeps it, and no
other. -/
theorem levelMeter_render (engine : Engine) (frame : Frame) :
    ((render frame engine).result.isOk = true →
      (render frame engine).state.rack.levelMeter =
        engine.rack.levelMeter.render (render frame engine).state.rendering) ∧
    ((render frame engine).result.isOk = false →
      (render frame engine).state.rack.levelMeter = engine.rack.levelMeter) := by
  rcases render_cases engine frame with ⟨fault, -, result, state⟩ |
    ⟨fault, recorder, -, -, result, state⟩ | ⟨recorder, -, result, state⟩
  · rw [result, state]
    refine ⟨?_, fun _ => rfl⟩
    intro answered
    cases answered
  · rw [result, state]
    refine ⟨?_, fun _ => rfl⟩
    intro answered
    cases answered
  · rw [result, state]
    exact levelMeter_observe { engine with recorder } frame

/-- A captured frame that is answered passed all stages, and the storage keeps the bands that they
leave, merged or not. -/
theorem bands_capture {frame : Frame} (answered : (engine.capture frame).1.result.isOk = true) :
    let audio := (CaptureStage.runEach engine.delay CaptureStage.beforeLevelMeter engine.rack
      (engine.loadCaptured frame)).2.2
    ∀ channel,
      (engine.capture frame).1.state.capturing.lowBand channel = audio.lowBand channel ∧
      (engine.capture frame).1.state.capturing.highBand? channel = audio.highBand? channel := by
  intro audio channel
  rcases capture_cases engine frame with ⟨fault, -, result, -, -⟩ |
    ⟨fault, recorder, -, -, result, -, -⟩ | ⟨recorder, -, -, result, state, -⟩
  · rw [result] at answered
    cases answered
  · rw [result] at answered
    cases answered
  · rw [result] at answered
    rw [state]
    have parts : CaptureStage.order = CaptureStage.beforeLevelMeter ++ [.levelMeter] := rfl
    simp only [process] at answered ⊢
    split at answered
    case h_1 failing => cases answered
    case h_2 passing =>
      rw [parts] at passing
      obtain ⟨rack, reached, before, last⟩ := CaptureStage.passes_append passing
      -- The level meter leaves the audio.
      cases last
      have same : audio = reached := congrArg (fun stages => stages.2.2) before
      rw [same]
      exact reached.bands_mergeChannels engine.format.outputChannels channel

/-- A frame to the loudspeaker that is answered is kept as it was split. -/
theorem rendering_render {frame : Frame} (answered : (render frame engine).result.isOk = true) :
    frame.channelCount = engine.format.reverseChannels ∧
      (render frame engine).state.rendering =
        (engine.rendering.load frame).splitChannels frame.channelCount := by
  rcases render_cases engine frame with ⟨fault, -, result, -⟩ |
    ⟨fault, recorder, -, -, result, -⟩ | ⟨recorder, matching, -, state⟩
  · rw [result] at answered
    cases answered
  · rw [result] at answered
    cases answered
  · obtain ⟨-, count, -⟩ := frameFault_eq_none_iff.mp matching
    obtain ⟨rack, delay, after, -, -⟩ := observe_state { engine with recorder } frame
    refine ⟨count, ?_⟩
    rw [state, after]

/-- What a call does to the meter: one of three things, or nothing but switching it. -/
inductive MeterStep (engine : Engine) (call : Call) : Prop
  /-- The meter is prepared, and both measurements are new. -/
  | prepared (prepares : engine.prepares call .levelMeter = true)
      (same : (engine.perform call).state.rack.levelMeter = { enabled := true })
  /-- The level of a stream is read. -/
  | read (stream : Stream) (its : call = stream.reading)
      (on : engine.rack.levelMeter.enabled = true)
      (same : (engine.perform call).state.rack.levelMeter = stream.renew engine.rack.levelMeter)
  /-- A frame of a stream is answered. -/
  | heard (stream : Stream) (frame : Frame) (its : stream.frame? call = some frame)
      (done : (engine.perform call).result.isOk = true)
      (same : (engine.perform call).state.rack.levelMeter =
        stream.hear engine.rack.levelMeter (stream.storage (engine.perform call).state))
  /-- None of this happens. -/
  | kept (unprepared : engine.prepares call .levelMeter = false)
      (unread : ∀ stream : Stream, call = stream.reading → engine.rack.levelMeter.enabled = false)
      (unheard : ∀ stream : Stream, (stream.frame? call).isSome = true →
        (engine.perform call).result.isOk = false)
      (same : (engine.perform call).state.rack.levelMeter.enabled = true →
        (engine.perform call).state.rack.levelMeter = engine.rack.levelMeter)

/-- A call of no stream that does not prepare the meter does none of this. -/
theorem MeterStep.kept_of_apart (unprepared : engine.prepares call .levelMeter = false)
    (apart : Stream.isApart call = true)
    (same : (engine.perform call).state.rack.levelMeter.enabled = true →
      (engine.perform call).state.rack.levelMeter = engine.rack.levelMeter) :
    engine.MeterStep call := by
  refine .kept unprepared ?_ ?_ same
  · intro stream its
    exact absurd its (Stream.of_isApart apart stream).1
  · intro stream handed
    rw [(Stream.of_isApart apart stream).2] at handed
    cases handed

/-- Nor does a call that asks for a format, unless it prepares the meter. -/
theorem MeterStep.kept_of_target {change : Except FormatError Format}
    (target : call.target? engine.format = some change)
    (unprepared : engine.prepares call .levelMeter = false)
    (same : (engine.perform call).state.rack.levelMeter = engine.rack.levelMeter) :
    engine.MeterStep call := by
  have apart : Stream.isApart call = true := by
    cases call <;> first | rfl | cases target
  exact .kept_of_apart unprepared apart fun _ => same

/-- Starting anew prepares the meter if it is on, unless mobile echo control refuses. -/
theorem meterStep_of_target {format : Format}
    (target : call.target? engine.format = some (.ok format)) : engine.MeterStep call := by
  have after := congrArg Outcome.state (perform_of_target target)
  rw [replying, restart_state] at after
  have prepares := prepares_of_target target .levelMeter
  dsimp only [Rack.isEnabled] at prepares
  rw [Rack.prepareEach_all] at prepares after
  cases mobile : engine.rack.mobileEchoControl.prepare format with
  | error fault =>
    rw [mobile] at prepares after
    exact .kept_of_target target (prepares.trans (by simp [Rack.preparedBy, EffectKind.all]))
      (by rw [after])
  | ok mobileEchoControl =>
    rw [mobile] at prepares after
    cases on : engine.rack.levelMeter.enabled with
    | true =>
      refine .prepared (prepares.trans (by simp [on, Rack.preparedBy, EffectKind.all])) ?_
      rw [after]
      simp [LevelMeter.prepare, on]
    | false =>
      refine .kept_of_target target (prepares.trans (by simp [on])) ?_
      rw [after]
      simp [LevelMeter.prepare, on]

/-- Switching effects prepares the meter when it goes on itself, and leaves it as it is when another
effect is switched. -/
theorem meterStep_enable (kind : EffectKind) (enabled : Bool) :
    engine.MeterStep (.enable kind enabled) := by
  have state : (engine.perform (.enable kind enabled)).state = (enable kind enabled engine).state :=
    rfl
  have apart : Stream.isApart (.enable kind enabled) = true := rfl
  rcases engine.enable_prepares_cases kind enabled with ⟨after, unprepared⟩ |
    ⟨rack, rfl, -, prepared, after, prepares⟩ | ⟨on, after, unprepared⟩
  · exact .kept_of_apart (unprepared _) apart (fun _ => by rw [state, after])
  · by_cases itself : kind = .levelMeter
    · subst itself
      refine .prepared (prepares .levelMeter) ?_
      rw [state, after]
      cases prepared
      rfl
    · refine .kept_of_apart ((prepares _).trans (decide_eq_false itself)) apart (fun _ => ?_)
      rw [state, after]
      have left := engine.rack.levelMeter_switch_of_ne true itself
      exact (Rack.levelMeter_prepare_of_ne prepared itself).trans left
  · refine .kept_of_apart (unprepared _) apart ?_
    -- A meter that is switched off may change, but not one that is on afterwards.
    rw [state, after]
    intro stillOn
    by_cases itself : kind = .levelMeter
    · subst itself
      obtain rfl : enabled = true := stillOn
      exact Rack.switch_levelMeter_of_on (on rfl)
    · exact engine.rack.levelMeter_switch_of_ne enabled itself

/-- Reading the level of a stream begins a new measurement of it, or is refused when the meter is
off. -/
theorem perform_reading (engine : Engine) (stream : Stream) :
    (engine.perform stream.reading).result.isOk = engine.rack.levelMeter.enabled ∧
      (engine.perform stream.reading).state.rack.levelMeter =
        if engine.rack.levelMeter.enabled = true then stream.renew engine.rack.levelMeter
        else engine.rack.levelMeter := by
  by_cases on : engine.rack.levelMeter.enabled = true
  · cases stream with
    | captured =>
      simp only [Stream.reading, perform, isOk_replying, takeCapturedLevel, LevelMeter.takeCaptured,
        if_pos on]
      exact ⟨on.symm, rfl⟩
    | rendered =>
      simp only [Stream.reading, perform, isOk_replying, takeRenderedLevel, LevelMeter.takeRendered,
        if_pos on]
      exact ⟨on.symm, rfl⟩
  · have off : engine.rack.levelMeter.enabled = false := Bool.eq_false_iff.mpr on
    cases stream with
    | captured =>
      simp only [Stream.reading, perform, isOk_replying, takeCapturedLevel, LevelMeter.takeCaptured,
        if_neg on]
      exact ⟨off.symm, rfl⟩
    | rendered =>
      simp only [Stream.reading, perform, isOk_replying, takeRenderedLevel, LevelMeter.takeRendered,
        if_neg on]
      exact ⟨off.symm, rfl⟩

/-- Reading a level does to the meter what it says. -/
theorem meterStep_reading (stream : Stream) : engine.MeterStep stream.reading := by
  obtain ⟨answered, after⟩ := perform_reading engine stream
  cases on : engine.rack.levelMeter.enabled with
  | true =>
    rw [if_pos on] at after
    exact .read stream rfl on after
  | false =>
    have off : ¬ engine.rack.levelMeter.enabled = true := by simp [on]
    rw [if_neg off] at after
    refine .kept (Stream.prepares_reading engine stream _) (fun _ _ => on) ?_ (fun _ => after)
    intro other handed
    rw [Stream.frame?_reading] at handed
    cases handed

/-- A frame of a stream is measured when it is answered. -/
theorem meterStep_frame (stream : Stream) {frame : Frame}
    (its : stream.frame? call = some frame) : engine.MeterStep call := by
  have unprepared := Stream.prepares_of_frame? its engine .levelMeter
  have unread : ∀ other : Stream, call = other.reading →
      engine.rack.levelMeter.enabled = false := by
    rintro other rfl
    rw [Stream.frame?_reading] at its
    cases its
  have measured : ((engine.perform call).result.isOk = true →
        (engine.perform call).state.rack.levelMeter =
          stream.hear engine.rack.levelMeter (stream.storage (engine.perform call).state)) ∧
      ((engine.perform call).result.isOk = false →
        (engine.perform call).state.rack.levelMeter = engine.rack.levelMeter) := by
    cases stream with
    | captured =>
      cases call with
      | capture handed =>
        rw [perform, isOk_replying]
        exact levelMeter_capture engine handed
      | _ => cases its
    | rendered =>
      cases call with
      | render handed =>
        rw [perform, isOk_replying]
        exact levelMeter_render engine handed
      | _ => cases its
  cases answered : (engine.perform call).result.isOk with
  | true => exact .heard stream frame its answered (measured.1 answered)
  | false => exact .kept unprepared unread (fun _ _ => answered) (fun _ => measured.2 answered)

/-- Every call does one of these. -/
theorem meterStep (engine : Engine) (call : Call) : engine.MeterStep call := by
  cases target : call.target? engine.format with
  | some change =>
    cases change with
    | error cause =>
      exact .kept_of_target target (prepares_of_target_error target _)
        (by rw [(perform_of_target_error target).2])
    | ok format => exact meterStep_of_target target
  | none =>
    cases call with
    | enable kind enabled => exact meterStep_enable kind enabled
    | capture frame => exact meterStep_frame .captured rfl
    | render frame => exact meterStep_frame .rendered rfl
    | takeCapturedLevel => exact meterStep_reading .captured
    | takeRenderedLevel => exact meterStep_reading .rendered
    | adjust setting =>
      refine .kept_of_apart rfl rfl ?_
      intro _
      have state : (engine.perform (.adjust setting)).state = (adjust setting engine).state := rfl
      rw [state, adjust]
      cases taken : engine.rack.adjust setting with
      | ok rack => exact Rack.levelMeter_adjust taken
      | error fault => rfl
    | reportDelay ms =>
      refine .kept_of_apart rfl rfl ?_
      intro _
      rw [state_reportDelay]
    | restart => cases target
    | setRate hz => cases target
    | setChannels input output => cases target
    | setReverseChannels channels => cases target
    | _ =>
      exact .kept_of_apart rfl rfl fun _ => rfl

end Engine

end VoiceEngine
