import VoiceEngine.Proofs.Erasure
import VoiceEngine.Proofs.InStep
import VoiceEngine.Proofs.PerChannel
import VoiceEngine.Proofs.Receipts

/-!
# The two streams in any order

One thread hands over the frames from the microphone and another those to the loudspeaker, and a
lock lets them take turns in an order that nobody chose. As long as the echo effects are off and
the gain is fixed, no turn of one thread can be noticed by the other: the captured stream never
reads what the engine keeps of the far side, and the stream to the loudspeaker changes nothing
else. So every schedule of the same frames gives every call the same receipt and leads to the same
engine, whether its calls succeed or fail.
-/

namespace VoiceEngine

/-- What the effects keep of the stream to the loudspeaker, apart from the echo effects. -/
structure Heard where
  farEndIsActive : Bool
  rendered : LevelMeter.Measurement

namespace Rack

/-- What the rack has heard from the far side. -/
def heard (rack : Rack) : Heard := ⟨rack.gainControl.farEndIsActive, rack.levelMeter.rendered⟩

/-- The rack as if it had heard something else from the far side. -/
def hearing (rack : Rack) (heard : Heard) : Rack :=
  { rack with
    gainControl := { rack.gainControl with farEndIsActive := heard.farEndIsActive }
    levelMeter := { rack.levelMeter with rendered := heard.rendered } }

/-- No effect carries anything from the far side into the captured stream: the echo effects are
off, and gain control, if it is on, has a fixed gain. -/
structure Deaf (rack : Rack) : Prop where
  echoCanceller : rack.echoCanceller.enabled = false
  mobileEchoControl : rack.mobileEchoControl.enabled = false
  gainControl : rack.gainControl.enabled = true → rack.gainControl.mode = .fixedDigital

end Rack

/-- Measuring a captured frame does not depend on whether the far end is active. -/
theorem GainControl.measure_hearing (effect : GainControl) (farEndIsActive : Bool)
    (audio : StreamBuffer) :
    ({ effect with farEndIsActive } : GainControl).measure audio =
      { effect.measure audio with farEndIsActive } := by
  by_cases on : effect.enabled = true
  · simp [measure, on]
  · simp [measure, on]

/-- The level of the captured stream is measured apart from that of the stream to the
loudspeaker. -/
theorem LevelMeter.capture_hearing (meter : LevelMeter) (rendered : Measurement)
    (audio : StreamBuffer) :
    ({ meter with rendered } : LevelMeter).capture audio =
      { meter.capture audio with rendered } := by
  by_cases on : meter.enabled = true
  · simp [capture, on]
  · simp [capture, on]

/-- A fixed gain does not depend on whether the far end is active. -/
theorem GainControl.capture_hearing {effect : GainControl}
    (fixed : effect.enabled = true → effect.mode = .fixedDigital) (farEndIsActive : Bool)
    (audio : StreamBuffer) :
    ({ effect with farEndIsActive } : GainControl).capture audio =
      ⟨(effect.capture audio).fault, { (effect.capture audio).effect with farEndIsActive },
        (effect.capture audio).audio⟩ := by
  by_cases on : effect.enabled = true
  · have mode := fixed on
    have alsoOn : ({ effect with farEndIsActive } : GainControl).enabled = true := on
    rw [capture_of_fixed on mode rfl, capture_of_fixed alsoOn mode rfl]
    rfl
  · have off : effect.enabled = false := eq_false_of_ne_true on
    have alsoOff : ({ effect with farEndIsActive } : GainControl).enabled = false := off
    rw [capture_of_off off, capture_of_off alsoOff]
    rfl

namespace CaptureStage

variable {rack : Rack}

/-- A stage of the captured stream neither reads nor changes what a deaf rack has heard, nor the
reported delay. -/
theorem run_hearing (deaf : rack.Deaf) (heard : Heard) (delay other : StreamDelay)
    (audio : StreamBuffer) (stage : CaptureStage) :
    stage.run other (rack.hearing heard) audio =
      ⟨(stage.run delay rack audio).fault, (stage.run delay rack audio).effect.hearing heard,
        (stage.run delay rack audio).audio⟩ := by
  cases stage with
  | highPass => rfl
  | measureGain =>
    simp only [run, Rack.hearing, GainControl.measure_hearing]
    rfl
  | echoCanceller =>
    have off : (rack.hearing heard).echoCanceller.enabled = false := deaf.echoCanceller
    simp only [run, EchoCanceller.capture_of_off off,
      EchoCanceller.capture_of_off deaf.echoCanceller]
    rfl
  | snapshot =>
    have idle : ¬ (rack.mobileEchoControl.enabled = true ∧ rack.noiseSuppressor.enabled = true) :=
      fun both => ne_true_of_eq_false deaf.mobileEchoControl both.1
    have alsoIdle : ¬ ((rack.hearing heard).mobileEchoControl.enabled = true ∧
      (rack.hearing heard).noiseSuppressor.enabled = true) := idle
    simp only [run, if_neg idle, if_neg alsoIdle]
    rfl
  | noiseSuppressor => rfl
  | mobileEchoControl =>
    have off : (rack.hearing heard).mobileEchoControl.enabled = false := deaf.mobileEchoControl
    simp only [run, MobileEchoControl.capture_of_off off,
      MobileEchoControl.capture_of_off deaf.mobileEchoControl]
    rfl
  | voiceDetector => rfl
  | applyGain =>
    simp only [run, Rack.hearing]
    rw [GainControl.capture_hearing deaf.gainControl]
  | levelMeter =>
    simp only [run, Rack.hearing, LevelMeter.capture_hearing]
    rfl

/-- A stage of the captured stream leaves a deaf rack deaf. -/
theorem deaf_run (deaf : rack.Deaf) (delay : StreamDelay) (audio : StreamBuffer)
    (stage : CaptureStage) : (stage.run delay rack audio).effect.Deaf := by
  have enabled := (run_alike delay rack audio stage).1.enabled
  refine ⟨(enabled .echoCanceller).trans deaf.echoCanceller,
    (enabled .mobileEchoControl).trans deaf.mobileEchoControl, fun on => ?_⟩
  have fixed := deaf.gainControl ((enabled .gainControl).symm.trans on)
  cases stage with
  | measureGain =>
    rw [← fixed]
    simp only [run, GainControl.measure]
    split <;> rfl
  | applyGain => exact (rack.gainControl.mode_capture audio).2.trans fixed
  | snapshot =>
    rw [← fixed]
    simp only [run]
    split <;> rfl
  | _ => exact fixed

/-- Stages of the captured stream neither read nor change what a deaf rack has heard, nor the
reported delay, and leave the rack deaf. -/
theorem runEach_hearing (deaf : rack.Deaf) (heard : Heard) (delay other : StreamDelay)
    (stages : List CaptureStage) (audio : StreamBuffer) :
    (runEach delay stages rack audio).2.1.Deaf ∧
      runEach other stages (rack.hearing heard) audio =
        ((runEach delay stages rack audio).1, (runEach delay stages rack audio).2.1.hearing heard,
          (runEach delay stages rack audio).2.2) := by
  induction stages generalizing rack audio with
  | nil => exact ⟨deaf, rfl⟩
  | cons stage stages inductionHypothesis =>
    have next := deaf_run deaf delay audio stage
    simp only [runEach, run_hearing deaf heard delay other]
    cases (stage.run delay rack audio).fault with
    | none => exact inductionHypothesis next _
    | some fault => exact ⟨next, rfl⟩

end CaptureStage

namespace RenderStage

/-- What a rack has heard after a frame to the loudspeaker. -/
def hears (rack : Rack) (audio : StreamBuffer) : Heard :=
  ⟨(rack.gainControl.render audio).farEndIsActive, (rack.levelMeter.render audio).rendered⟩

/-- What a rack hears depends only on which effects are on and on what it has heard before. -/
theorem hears_congr {first second : Rack}
    (enabled : ∀ kind, second.isEnabled kind = first.isEnabled kind)
    (heard : second.heard = first.heard) (audio : StreamBuffer) :
    hears second audio = hears first audio := by
  have gainControl : second.gainControl.enabled = first.gainControl.enabled := enabled .gainControl
  have levelMeter : second.levelMeter.enabled = first.levelMeter.enabled := enabled .levelMeter
  obtain ⟨farEndIsActive, rendered⟩ := Heard.mk.inj heard
  simp only [hears, GainControl.render, LevelMeter.render, gainControl, levelMeter, Heard.mk.injEq]
  constructor
  · split
    · rfl
    · exact farEndIsActive
  · rw [rendered]
    split
    · rfl
    · exact rendered

/-- A deaf rack lets every frame to the loudspeaker pass, and only what it has heard changes. -/
theorem runEach_of_deaf {rack : Rack} (deaf : rack.Deaf) (audio : StreamBuffer) :
    runEach audio order rack = (none, rack.hearing (hears rack audio)) := by
  have gainControl : rack.gainControl.render audio =
      { rack.gainControl with
        farEndIsActive := (rack.gainControl.render audio).farEndIsActive } := by
    simp only [GainControl.render]
    split <;> rfl
  have levelMeter : rack.levelMeter.render audio =
      { rack.levelMeter with rendered := (rack.levelMeter.render audio).rendered } := by
    simp only [LevelMeter.render]
    split <;> rfl
  simp only [order, runEach, run, EchoCanceller.render_of_off deaf.echoCanceller,
    MobileEchoControl.render_of_off deaf.mobileEchoControl, Except.map]
  rw [gainControl, levelMeter]
  rfl

end RenderStage

/-- A call with a frame from the microphone. -/
def Call.isCapture : Call → Bool
  | capture _ => true
  | _ => false

/-- A call with a frame to the loudspeaker. -/
def Call.isRender : Call → Bool
  | render _ => true
  | _ => false

/-- The turns of two threads in some order: one thread hands over frames from the microphone and
the other frames to the loudspeaker, each in its own order. -/
inductive Schedule : List Frame → List Frame → List Call → Prop
  | finished : Schedule [] [] []
  | capture {captures renders : List Frame} {calls : List Call} (frame : Frame)
      (later : Schedule captures renders calls) :
      Schedule (frame :: captures) renders (.capture frame :: calls)
  | render {captures renders : List Frame} {calls : List Call} (frame : Frame)
      (later : Schedule captures renders calls) :
      Schedule captures (frame :: renders) (.render frame :: calls)

/-- What an engine keeps of the stream to the loudspeaker, apart from its echo effects. -/
structure FarSide where
  rendering : StreamBuffer
  delay : StreamDelay
  heard : Heard

namespace Engine

/-- The far side of an engine. -/
def farSide (engine : Engine) : FarSide := ⟨engine.rendering, engine.delay, engine.rack.heard⟩

/-- The engine with another far side. -/
def facing (engine : Engine) (side : FarSide) : Engine :=
  { engine with
    rendering := side.rendering
    delay := side.delay
    rack := engine.rack.hearing side.heard }

/-- The far side of an engine once the stages have seen a frame to the loudspeaker. -/
def faces (engine : Engine) (frame : Frame) : FarSide :=
  let audio := (engine.rendering.load frame).splitChannels frame.channelCount
  ⟨audio, engine.delay.forget, RenderStage.hears engine.rack audio⟩

/-- The two streams of an engine do not meet: no recording takes both down, and no effect carries
anything from the far side into the captured stream. -/
structure Apart (engine : Engine) : Prop where
  idle : engine.isRecording = false
  deaf : engine.rack.Deaf

variable {engine : Engine}

/-- Processing a captured frame neither reads nor changes the far side. -/
theorem process_facing (deaf : engine.rack.Deaf) (side : FarSide) (frame : Frame) :
    (engine.process frame).1.state.rack.Deaf ∧
      (engine.facing side).process frame =
        ({ (engine.process frame).1 with state := (engine.process frame).1.state.facing side },
          (engine.process frame).2) := by
  obtain ⟨stillDeaf, passes⟩ := CaptureStage.runEach_hearing deaf side.heard engine.delay
    side.delay CaptureStage.order (engine.loadCaptured frame)
  have sameLoad : (engine.facing side).loadCaptured frame = engine.loadCaptured frame := rfl
  simp only [process, sameLoad]
  rw [show (engine.facing side).rack = engine.rack.hearing side.heard from rfl,
    show (engine.facing side).delay = side.delay from rfl, passes]
  revert stillDeaf
  generalize CaptureStage.runEach engine.delay CaptureStage.order engine.rack
    (engine.loadCaptured frame) = outcome
  obtain ⟨fault, rack, audio⟩ := outcome
  intro stillDeaf
  cases fault with
  | none => exact ⟨stillDeaf, rfl⟩
  | some reason => exact ⟨stillDeaf, rfl⟩

namespace Apart

/-- Taking in a captured frame neither reads nor changes the far side. -/
theorem capture_facing (apart : engine.Apart) (side : FarSide) (frame : Frame) :
    (engine.facing side).capture frame =
      ({ (engine.capture frame).1 with state := (engine.capture frame).1.state.facing side },
        (engine.capture frame).2) := by
  have idle := recorder_of_idle apart.idle
  have alsoIdle : (engine.facing side).recorder = {} := idle
  have sameFault : (engine.facing side).frameFault (engine.facing side).format.inputChannels frame =
      engine.frameFault engine.format.inputChannels frame := rfl
  rw [capture_of_idle idle, capture_of_idle alsoIdle, sameFault]
  cases engine.frameFault engine.format.inputChannels frame with
  | some fault => rfl
  | none => exact (process_facing apart.deaf side frame).2

/-- Taking in a captured frame leaves the far side as it is. -/
theorem farSide_capture (apart : engine.Apart) (frame : Frame) :
    (engine.capture frame).1.state.farSide = engine.farSide := by
  have same : engine.facing engine.farSide = engine := rfl
  have unchanged := apart.capture_facing engine.farSide frame
  rw [same] at unchanged
  rw [unchanged]
  rfl

/-- Taking in a captured frame keeps the two streams apart. -/
theorem capture (apart : engine.Apart) (frame : Frame) : (engine.capture frame).1.state.Apart := by
  have idle := recorder_of_idle apart.idle
  rw [capture_of_idle idle]
  cases engine.frameFault engine.format.inputChannels frame with
  | some fault => exact apart
  | none =>
    refine ⟨?_, (process_facing apart.deaf engine.farSide frame).1⟩
    obtain ⟨rack, capturing, state, -⟩ := process_state engine frame
    dsimp only
    rw [state]
    exact apart.idle

/-- A frame to the loudspeaker is refused because it does not match the format, or is taken in, and
then only the far side changes. -/
theorem render_eq (apart : engine.Apart) (frame : Frame) :
    Engine.render frame engine =
      match engine.frameFault engine.format.reverseChannels frame with
      | some fault => { result := .error fault, state := engine }
      | none =>
        { result := .ok (), state := engine.facing (engine.faces frame),
          notices := [.rendered engine.id] } := by
  rw [render_of_idle (recorder_of_idle apart.idle)]
  cases engine.frameFault engine.format.reverseChannels frame with
  | some fault => rfl
  | none =>
    simp only [observe, RenderStage.runEach_of_deaf apart.deaf]
    rfl

/-- Taking in a frame to the loudspeaker keeps the two streams apart. -/
theorem render (apart : engine.Apart) (frame : Frame) :
    (Engine.render frame engine).state.Apart := by
  rw [apart.render_eq]
  cases engine.frameFault engine.format.reverseChannels frame with
  | some fault => exact apart
  | none =>
    exact ⟨apart.idle, apart.deaf.echoCanceller, apart.deaf.mobileEchoControl,
      apart.deaf.gainControl⟩

/-- Taking in a captured frame changes nothing that decides what becomes of a frame to the
loudspeaker. -/
theorem faces_capture (apart : engine.Apart) (near : Frame) :
    (engine.capture near).1.state.id = engine.id ∧
      (engine.capture near).1.state.format = engine.format ∧
      ∀ far, (engine.capture near).1.state.faces far = engine.faces far := by
  have farSide := apart.farSide_capture near
  revert farSide
  rw [capture_of_idle (recorder_of_idle apart.idle)]
  cases engine.frameFault engine.format.inputChannels near with
  | some fault => exact fun _ => ⟨rfl, rfl, fun _ => rfl⟩
  | none =>
    obtain ⟨rack, capturing, state, alike, -⟩ := process_state engine near
    dsimp only
    rw [state]
    intro farSide
    obtain ⟨-, -, heard⟩ := FarSide.mk.inj farSide
    refine ⟨rfl, rfl, fun far => ?_⟩
    simp only [faces, RenderStage.hears_congr alike.enabled heard]

/-- Whichever of two calls comes first, both give the same receipts and the engine is the same
afterwards. -/
theorem swap (apart : engine.Apart) (near far : Frame) :
    (engine.perform (.render far)).state.receipt (.capture near) = engine.receipt (.capture near) ∧
      (engine.perform (.capture near)).state.receipt (.render far) =
        engine.receipt (.render far) ∧
      ((engine.perform (.render far)).state.perform (.capture near)).state =
        ((engine.perform (.capture near)).state.perform (.render far)).state := by
  obtain ⟨sameId, sameFormat, sameFaces⟩ := apart.faces_capture near
  have sameFault : (engine.capture near).1.state.frameFault
      (engine.capture near).1.state.format.reverseChannels far =
        engine.frameFault engine.format.reverseChannels far := by
    simp only [frameFault, sameFormat]
  have before := apart.render_eq far
  have behind := (apart.capture near).render_eq far
  rw [sameFault] at behind
  simp only [receipt, leaves, perform, replying]
  rw [before, behind]
  cases engine.frameFault engine.format.reverseChannels far with
  | some fault => exact ⟨rfl, rfl, rfl⟩
  | none =>
    dsimp only
    rw [apart.capture_facing, sameId, sameFaces]
    exact ⟨rfl, rfl, rfl⟩

/-- A turn of the thread with the frames to the loudspeaker can be moved behind any number of turns
of the other thread. -/
theorem captures_behind (apart : engine.Apart) (far : Frame) (captures : List Frame) :
    let hearing := (engine.perform (.render far)).state
    let captured := (engine.run (captures.map .capture)).2
    hearing.receipts (captures.map .capture) = engine.receipts (captures.map .capture) ∧
      captured.receipt (.render far) = engine.receipt (.render far) ∧
      (hearing.run (captures.map .capture)).2 = (captured.perform (.render far)).state := by
  induction captures generalizing engine with
  | nil => exact ⟨rfl, rfl, rfl⟩
  | cons near captures inductionHypothesis =>
    obtain ⟨sameCapture, sameRender, sameState⟩ := apart.swap near far
    obtain ⟨receipts, render, state⟩ := inductionHypothesis (apart.capture near)
    refine ⟨?_, render.trans sameRender, ?_⟩
    · simp only [List.map_cons, receipts_cons]
      rw [sameCapture, sameState]
      exact congrArg _ receipts
    · simp only [List.map_cons, state_run_cons]
      rw [sameState]
      exact state

/-- Every schedule gives the receipts of the schedule in which the thread with the captured frames
takes all its turns first, and leads to the same engine. Induct along the schedule: a captured frame
comes first in either, and a frame to the loudspeaker is moved behind the captured frames. -/
theorem captures_first (apart : engine.Apart) {captures renders : List Frame} {calls : List Call}
    (schedule : Schedule captures renders calls) :
    let captured := (engine.run (captures.map .capture)).2
    (engine.receipts calls).filter (·.call.isCapture) =
        engine.receipts (captures.map .capture) ∧
      (engine.receipts calls).filter (·.call.isRender) =
        captured.receipts (renders.map .render) ∧
      (engine.run calls).2 = (captured.run (renders.map .render)).2 := by
  induction schedule generalizing engine with
  | finished => exact ⟨rfl, rfl, rfl⟩
  | capture near later inductionHypothesis =>
    obtain ⟨captured, rendered, state⟩ := inductionHypothesis (apart.capture near)
    exact ⟨congrArg (engine.receipt (.capture near) :: ·) captured, rendered, state⟩
  | @render captures renders calls far later inductionHypothesis =>
    obtain ⟨captured, rendered, state⟩ := inductionHypothesis (apart.render far)
    obtain ⟨sameCaptured, sameReceipt, sameState⟩ := apart.captures_behind far captures
    refine ⟨captured.trans sameCaptured, ?_, ?_⟩
    · simp only [List.map_cons, receipts_cons]
      rw [sameReceipt, ← sameState]
      exact congrArg (engine.receipt (.render far) :: ·) rendered
    · simp only [List.map_cons, state_run_cons]
      rw [← sameState]
      exact state

end Apart

/-- The order in which two threads take their turns does not matter. While nothing is recorded, the
echo effects are off, and gain control is off or has a fixed gain, one thread may hand over frames
from the microphone and another frames to the loudspeaker, whether or not these frames match the
format. Every schedule gives every call the same result and leaves the same of the frame that it
handed over, and the engine is the same at the end. -/
theorem schedules_agree (engine : Engine) (idle : engine.isRecording = false)
    (deaf : engine.rack.Deaf) {captures renders : List Frame} {one other : List Call}
    (schedule : Schedule captures renders one) (another : Schedule captures renders other) :
    (engine.receipts one).filter (·.call.isCapture) =
        (engine.receipts other).filter (·.call.isCapture) ∧
      (engine.receipts one).filter (·.call.isRender) =
        (engine.receipts other).filter (·.call.isRender) ∧
      (engine.run one).2 = (engine.run other).2 := by
  have apart : engine.Apart := ⟨idle, deaf⟩
  obtain ⟨captured, rendered, state⟩ := apart.captures_first schedule
  obtain ⟨otherCaptured, otherRendered, otherState⟩ := apart.captures_first another
  exact ⟨captured.trans otherCaptured.symm, rendered.trans otherRendered.symm,
    state.trans otherState.symm⟩

/-- An engine that amplifies by a fixed gain and measures the levels of both streams. -/
def duplex : Engine :=
  ((blank 0 {}).run [.setRate 8000, .adjust (.gainMode .fixedDigital), .enable .gainControl true,
    .enable .levelMeter true]).2

/-- The engine answers a frame that it takes, a frame of another rate and a frame to the loudspeaker
alike, whether the last comes after the others or before them. -/
theorem schedules_agree_duplex :
    duplex.Reachable ∧ duplex.isRecording = false ∧ duplex.rack.Deaf ∧
      (let near : Call := .capture (.silent 8000 1 80)
      let misfit : Call := .capture (.silent 16000 1 160)
      let far : Call := .render (.silent 8000 1 80)
      (duplex.perform misfit).result = .error .badSampleRate ∧
        (duplex.receipts [near, misfit, far]).filter (·.call.isCapture) =
          (duplex.receipts [far, near, misfit]).filter (·.call.isCapture) ∧
        (duplex.receipts [near, misfit, far]).filter (·.call.isRender) =
          (duplex.receipts [far, near, misfit]).filter (·.call.isRender) ∧
        (duplex.run [near, misfit, far]).2 = (duplex.run [far, near, misfit]).2) := by
  have reached : duplex.Reachable :=
    ⟨{}, [.setRate 8000, .adjust (.gainMode .fixedDigital), .enable .gainControl true,
      .enable .levelMeter true], blank 0 {}, rfl, by decide, rfl⟩
  have idle : duplex.isRecording = false := rfl
  have deaf : duplex.rack.Deaf := ⟨rfl, rfl, fun _ => rfl⟩
  refine ⟨reached, idle, deaf, rfl, ?_⟩
  apply schedules_agree duplex idle deaf
  · exact .capture _ (.capture _ (.render _ .finished))
  · exact .render _ (.capture _ (.capture _ .finished))

end Engine

end VoiceEngine
