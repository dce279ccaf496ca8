import Mathlib.Data.List.DropRight
import VoiceEngine.Proofs.Reports
import VoiceEngine.Proofs.Transparency

/-!
# What the far-end histories hold

The two echo effects keep the far end in a delay line of constant length: the values of a frame
enter at the new end and as many leave at the old one. The lengths of the two lines differ, a frame
enters as it is or as its low band, and a capture reads a window whose place depends on the line, on
the frame and on the reported delay.

What a line ought to hold is told without shifting anything: it is the last values of silence
followed by everything heard since the effect was prepared. What was heard is kept up in a notebook
along the run. `farEnd_perform` says of every call what it does to the line, and from there the
windows are cut out of what was heard.
-/

namespace VoiceEngine

namespace FarEnd

variable {farEnd : FarEnd} {filterMs : Nat} {heard : List Scalar}

/-- Silence as long as the history, and then what was heard. -/
def line (farEnd : FarEnd) (heard : List Scalar) : List Scalar :=
  List.replicate farEnd.history.length 0.0 ++ heard

/-- The history holds the last values of silence and what was heard, and its parts are laid out for
a filter of so many milliseconds. -/
structure Remembers (farEnd : FarEnd) (filterMs : Nat) (heard : List Scalar) : Prop where
  maxDelay : farEnd.maxDelay = maxDelayMs * farEnd.samplesPerMs
  taps : farEnd.taps = filterMs * farEnd.samplesPerMs
  history : farEnd.history = (farEnd.line heard).rtake farEnd.history.length

/-- The last values as many as the history has are those behind what has left it. -/
theorem rtake_line (farEnd : FarEnd) (heard : List Scalar) :
    (farEnd.line heard).rtake farEnd.history.length = (farEnd.line heard).drop heard.length := by
  simp [List.rtake, line]

/-- A silent history holds nothing that was heard. -/
theorem remembers_silent (format : Format) (filterMs : Nat) :
    (silent format filterMs).Remembers filterMs [] := by
  refine ⟨rfl, rfl, ?_⟩
  rw [rtake_line]
  simp [line, silent]

/-- Values that enter are remembered behind those that were heard before. -/
theorem Remembers.push (known : farEnd.Remembers filterMs heard) {values : List Scalar}
    (short : values.length ≤ farEnd.history.length) :
    (farEnd.push values).Remembers filterMs (heard ++ values) := by
  have length := length_push farEnd values short
  refine ⟨known.maxDelay, known.taps, ?_⟩
  have history := known.history
  rw [rtake_line] at history ⊢
  have room : heard.length + values.length ≤ (farEnd.line heard).length := by
    simp only [line, List.length_append, List.length_replicate]
    omega
  have longer : (farEnd.push values).line (heard ++ values) = farEnd.line heard ++ values := by
    rw [line, line, length, List.append_assoc]
  rw [longer, List.length_append, List.drop_append_of_le_length room, ← List.drop_drop, ← history]
  rfl

end FarEnd

/-- The two effects that keep a far-end history. -/
inductive EchoEffect
  | canceller
  | mobile
  deriving DecidableEq

namespace EchoEffect

/-- The effect among all. -/
def kind : EchoEffect → EffectKind
  | canceller => .echoCanceller
  | mobile => .mobileEchoControl

/-- The length of its filter in milliseconds. -/
def filterMs : EchoEffect → Nat
  | canceller => EchoCanceller.filterMs
  | mobile => 0

/-- Its history. -/
def farEnd (rack : Rack) : EchoEffect → FarEnd
  | canceller => rack.echoCanceller.farEnd
  | mobile => rack.mobileEchoControl.farEnd

/-- The stage at which a frame to the loudspeaker reaches it. -/
def stage : EchoEffect → RenderStage
  | canceller => .echoCanceller
  | mobile => .mobileEchoControl

/-- The stages of a frame to the loudspeaker up to its own. -/
def stages : EchoEffect → List RenderStage
  | canceller => [.echoCanceller]
  | mobile => [.echoCanceller, .mobileEchoControl]

end EchoEffect

/-- Preparing an echo canceller that is on makes its history silent. -/
theorem EchoCanceller.farEnd_prepare (effect : EchoCanceller) (format : Format) :
    (effect.prepare format).farEnd =
      if effect.enabled = true then FarEnd.silent format filterMs else effect.farEnd := by
  simp only [prepare]
  split <;> rfl

/-- Preparing mobile echo control that is on makes its history silent. -/
theorem MobileEchoControl.farEnd_prepare {effect next : MobileEchoControl} {format : Format}
    (prepared : effect.prepare format = .ok next) :
    next.farEnd = if effect.enabled = true then FarEnd.silent format 0 else effect.farEnd := by
  simp only [prepare] at prepared
  split at prepared
  case isTrue off =>
    cases prepared
    have idle : effect.enabled = false := by simpa using off
    simp [idle]
  case isFalse on =>
    have enabled : effect.enabled = true := by simpa using on
    split at prepared
    · cases prepared
    · cases prepared
      simp [enabled]

namespace EchoEffect

variable {rack next : Rack} {format : Format}

/-- Preparing one effect makes its own history silent, if it has one and is on. -/
theorem farEnd_prepare {kind : EffectKind} (prepared : rack.prepare format kind = .ok next)
    (echo : EchoEffect) :
    echo.farEnd next =
      if kind = echo.kind ∧ rack.isEnabled kind = true then FarEnd.silent format echo.filterMs
      else echo.farEnd rack := by
  cases kind with
  | echoCanceller =>
    cases prepared
    cases echo with
    | canceller =>
      simp [farEnd, EchoEffect.kind, Rack.isEnabled, EchoCanceller.farEnd_prepare, filterMs]
    | mobile => simp [farEnd, EchoEffect.kind]
  | mobileEchoControl =>
    rw [Rack.prepare_mobileEchoControl] at prepared
    obtain ⟨effect, done, rfl⟩ := exists_of_map_eq_ok prepared
    cases echo with
    | canceller => simp [farEnd, EchoEffect.kind]
    | mobile =>
      simp [farEnd, EchoEffect.kind, Rack.isEnabled, MobileEchoControl.farEnd_prepare done,
        filterMs]
  | _ =>
    cases prepared
    cases echo <;> simp [farEnd, EchoEffect.kind]

/-- Preparing all effects makes the histories silent of those that are on and get prepared. -/
theorem farEnd_prepareEach (rack : Rack) (format : Format) (echo : EchoEffect) :
    echo.farEnd (rack.prepareEach format EffectKind.all).2 =
      if rack.isEnabled echo.kind = true ∧ echo.kind ∈ Rack.preparedBy EffectKind.all
          (rack.prepareEach format EffectKind.all).1 then FarEnd.silent format echo.filterMs
      else echo.farEnd rack := by
  rw [Rack.prepareEach_all]
  cases prepared : rack.mobileEchoControl.prepare format with
  | error fault =>
    cases echo with
    | canceller =>
      simp [farEnd, kind, filterMs, Rack.isEnabled, EchoCanceller.farEnd_prepare, Rack.preparedBy,
        EffectKind.all]
    | mobile => simp [farEnd, kind, Rack.preparedBy, EffectKind.all]
  | ok mobile =>
    cases echo with
    | canceller =>
      simp [farEnd, kind, filterMs, Rack.isEnabled, EchoCanceller.farEnd_prepare, Rack.preparedBy,
        EffectKind.all]
    | mobile =>
      simp [farEnd, kind, filterMs, Rack.isEnabled, MobileEchoControl.farEnd_prepare prepared,
        Rack.preparedBy, EffectKind.all]

/-- Switching an effect leaves the histories. -/
theorem farEnd_switch (rack : Rack) (enabled : Bool) (kind : EffectKind) (echo : EchoEffect) :
    echo.farEnd (rack.switch enabled kind) = echo.farEnd rack := by
  cases kind <;> cases echo <;> rfl

/-- A value that an effect takes leaves the histories. -/
theorem farEnd_adjust {setting : Setting} (taken : rack.adjust setting = .ok next)
    (echo : EchoEffect) : echo.farEnd next = echo.farEnd rack := by
  cases Rack.adjusted taken with
  | echoCanceller setter its =>
    cases echo with
    | canceller => exact (Setting.tuned_echoCanceller its rack.echoCanceller).farEnd
    | mobile => rfl
  | mobileEchoControl setter its =>
    cases echo with
    | canceller => rfl
    | mobile => exact (Setting.tuned_mobileEchoControl its rack.mobileEchoControl).farEnd
  | _ => cases echo <;> rfl

/-- A captured frame leaves the histories, whichever stages it passes. -/
theorem farEnd_captureEach (delay : StreamDelay) (stages : List CaptureStage) (rack : Rack)
    (audio : StreamBuffer) (echo : EchoEffect) :
    echo.farEnd (CaptureStage.runEach delay stages rack audio).2.1 = echo.farEnd rack := by
  refine CaptureStage.runEach_keeps (fun rack => echo.farEnd rack) delay ?_ rack audio
  rintro stage - rack audio
  cases stage with
  | echoCanceller =>
    cases echo with
    | canceller => exact (EchoCanceller.capture_alike rack.echoCanceller delay audio).1.2.1
    | mobile => rfl
  | mobileEchoControl =>
    cases echo with
    | canceller => rfl
    | mobile => exact (MobileEchoControl.capture_alike rack.mobileEchoControl delay audio).1.2.1
  | snapshot =>
    simp only [CaptureStage.run]
    split <;> cases echo <;> rfl
  | _ => cases echo <;> rfl

/-- What a stage of a frame to the loudspeaker means for an effect: at the stage of the effect the
values of the frame enter its history, which they must fit, if the effect is on. No other stage
touches the history, and none switches the effect. -/
structure Heard (echo : EchoEffect) (audio : StreamBuffer) (stage : RenderStage)
    (rack next : Rack) : Prop where
  enabled : next.isEnabled echo.kind = rack.isEnabled echo.kind
  fits : stage = echo.stage → rack.isEnabled echo.kind = true →
    (echo.farEnd rack).Fits audio.bandLength
  farEnd : echo.farEnd next = (echo.farEnd rack).push
    (if stage = echo.stage ∧ rack.isEnabled echo.kind = true then FarEnd.ofBuffer audio else [])

/-- A stage that passes a frame to the loudspeaker. -/
theorem heard {audio : StreamBuffer} {stage : RenderStage}
    (passed : stage.run rack audio = .ok next) (echo : EchoEffect) :
    echo.Heard audio stage rack next := by
  cases stage with
  | echoCanceller =>
    obtain ⟨effect, rendered, rfl⟩ := exists_of_map_eq_ok passed
    rw [EchoCanceller.render_eq] at rendered
    obtain ⟨entered, taken, rfl⟩ := exists_of_map_eq_ok rendered
    obtain ⟨fits, rfl⟩ := FarEnd.of_intake taken
    cases echo with
    | canceller => exact ⟨rfl, fun _ => fits, by simp [farEnd, stage, kind, Rack.isEnabled]⟩
    | mobile => exact ⟨rfl, by simp [stage], by simp [farEnd, stage]⟩
  | mobileEchoControl =>
    obtain ⟨effect, rendered, rfl⟩ := exists_of_map_eq_ok passed
    rw [MobileEchoControl.render_eq] at rendered
    obtain ⟨entered, taken, rfl⟩ := exists_of_map_eq_ok rendered
    obtain ⟨fits, rfl⟩ := FarEnd.of_intake taken
    cases echo with
    | canceller => exact ⟨rfl, by simp [stage], by simp [farEnd, stage]⟩
    | mobile => exact ⟨rfl, fun _ => fits, by simp [farEnd, stage, kind, Rack.isEnabled]⟩
  | gainControl =>
    cases passed
    cases echo <;> exact ⟨rfl, by simp [stage], by simp [farEnd, stage]⟩
  | levelMeter =>
    cases passed
    cases echo <;> exact ⟨rfl, by simp [stage], by simp [farEnd, stage]⟩

/-- A frame to the loudspeaker enters the history of an effect that is on, when the stages up to
that of the effect pass. Only the first two stages can fail or touch a history; the cases are where
the frame is stopped. -/
theorem farEnd_renderEach (rack : Rack) (audio : StreamBuffer) (echo : EchoEffect) :
    echo.farEnd (RenderStage.runEach audio RenderStage.order rack).2 =
      (echo.farEnd rack).push
        (if (RenderStage.runEach audio echo.stages rack).1 = none ∧ rack.isEnabled echo.kind = true
          then FarEnd.ofBuffer audio else []) := by
  cases first : RenderStage.echoCanceller.run rack audio with
  | error fault => cases echo <;> simp [RenderStage.order, RenderStage.runEach, stages, first]
  | ok cancelled =>
    have cancelling := heard first echo
    cases second : RenderStage.mobileEchoControl.run cancelled audio with
    | error fault =>
      have stopped : RenderStage.runEach audio RenderStage.order rack =
          (some (.mobileEchoControl, fault), cancelled) := by
        simp only [RenderStage.order, RenderStage.runEach, first, second]
      rw [stopped, cancelling.farEnd]
      cases echo <;> simp [RenderStage.runEach, stages, stage, first, second]
    | ok controlled =>
      have controlling := heard second echo
      have passed : echo.farEnd (RenderStage.runEach audio RenderStage.order rack).2 =
          echo.farEnd controlled := by
        simp only [RenderStage.order, RenderStage.runEach, first, second]
        cases echo <;> rfl
      rw [passed, controlling.farEnd, cancelling.enabled, cancelling.farEnd]
      cases echo <;> simp [RenderStage.runEach, stages, stage, first, second]

end EchoEffect

namespace Engine

variable {engine : Engine} {frame : Frame} {call : Call}

/-- The stream to the loudspeaker with a frame loaded and split into bands. -/
def loadRendered (engine : Engine) (frame : Frame) : StreamBuffer :=
  (engine.rendering.load frame).splitChannels frame.channelCount

/-- The band of a far-end channel that the effects see: the low band of the splitting filter at the
rate that is split, and the channel itself otherwise. -/
def farBand (engine : Engine) (frame : Frame) (channel : Nat) : List Sample :=
  if engine.format.rate.isSplit then
    (SplitBands.split (engine.rendering.memories channel).1 (frame.channel channel)).1
  else frame.channel channel

/-- The values of a frame to the loudspeaker, one for every instant of a band: the samples that the
channels have at that instant, added up in the order of the channels and divided by their number. -/
def farValues (engine : Engine) (frame : Frame) : List Scalar :=
  (List.range engine.format.bandLength).map fun instant =>
    let samples := (List.range frame.channelCount).map fun channel =>
      Float32.ofInt ((engine.farBand frame channel).getD instant 0).toInt
    samples.foldl (· + ·) 0.0 / Float32.ofNat frame.channelCount

/-- Whether an effect takes a frame to the loudspeaker in: the frame matches the format and is
recorded, the stages up to that of the effect pass, and the effect is on. -/
def takesIn (engine : Engine) (echo : EchoEffect) (frame : Frame) : Bool :=
  (engine.frameFault engine.format.reverseChannels frame).isNone &&
    (recording (Trace.Recorder.recordFrame .rendered frame) engine).result.isOk &&
    (RenderStage.runEach (engine.loadRendered frame) echo.stages engine.rack).1.isNone &&
    engine.rack.isEnabled echo.kind

/-- The values that an effect hears in a call. -/
def hears (engine : Engine) (echo : EchoEffect) : Call → List Scalar
  | .render frame => if engine.takesIn echo frame then engine.farValues frame else []
  | _ => []

/-- What an effect heard since it was prepared, after one more call. -/
def hearsOn (echo : EchoEffect) (heard : List Scalar) (engine : Engine) (call : Call) :
    List Scalar :=
  if engine.prepares call echo.kind then [] else heard ++ engine.hears echo call

/-- In a matching frame the effects see the band of every channel. -/
theorem lowBands_loadRendered (stored : engine.Stored)
    (matching : engine.frameFault engine.format.reverseChannels frame = none) :
    (engine.loadRendered frame).lowBands =
      (List.range frame.channelCount).map (engine.farBand frame) := by
  obtain ⟨bands, others⟩ := (engine.rendering.load frame).splitChannels_spec frame.channelCount
  obtain ⟨-, count, -⟩ := frameFault_eq_none_iff.mp matching
  have few := stored.supported.2.2.2.2
  simp only [StreamBuffer.lowBands, StreamBuffer.used, loadRendered,
    StreamBuffer.channelCount_splitChannels, StreamBuffer.channelCount_load]
  refine List.map_congr_left ?_
  intro channel member
  have inside : channel < frame.channelCount := List.mem_range.mp member
  have full : (engine.rendering.load frame).fullBand channel = frame.channel channel := by
    have present : channel < frame.channels.length := by simpa [Frame.channels] using inside
    simp only [StreamBuffer.fullBand, StreamBuffer.load, List.getD_eq_getElem?_getD]
    rw [List.getElem?_append_left present, Frame.channels, List.getElem?_map,
      List.getElem?_range inside]
    rfl
  have found := bands channel
  rw [if_pos inside, full] at found
  have loaded : (engine.rendering.load frame).bands = engine.rendering.bands := rfl
  rw [loaded] at found
  simp only [StreamBuffer.lowBand, farBand, StreamBuffer.memories]
  rw [found]
  cases banded : engine.rendering.bands[channel]? with
  | none =>
    have whole := stored.rendering.not_isSplit_of_bands (by omega) banded
    simp only [Option.map_none, whole]
    rw [others, ← full]
    rfl
  | some pair =>
    have split := stored.rendering.isSplit_of_bands banded
    simp only [Option.map_some, split]
    rfl

/-- The values of a matching frame are those that its buffer gives: the frame has a channel, and all
bands of shaped storage have one length. -/
theorem ofBuffer_loadRendered (stored : engine.Stored) (wellFormed : frame.WellFormed)
    (matching : engine.frameFault engine.format.reverseChannels frame = none) :
    FarEnd.ofBuffer (engine.loadRendered frame) = engine.farValues frame := by
  have shaped : (engine.loadRendered frame).Shaped engine.format :=
    shaped_loadRendered engine stored.supported stored.rendering wellFormed matching
  have seen := lowBands_loadRendered stored matching
  have even : ∀ band ∈ (engine.loadRendered frame).lowBands,
      band.length = engine.format.bandLength := by
    intro band member
    obtain ⟨channel, inUse, rfl⟩ := List.mem_map.mp member
    exact shaped.length_lowBand (shaped.lt_of_mem_used inUse)
  have bandCount : (engine.loadRendered frame).lowBands.length = frame.channelCount := by
    rw [seen, List.length_map, List.length_range]
  have some_band : 1 ≤ (engine.loadRendered frame).lowBands.length := by
    rw [bandCount, (frameFault_eq_none_iff.mp matching).2.1]
    exact stored.supported.2.2.2.1
  rw [FarEnd.ofBuffer, shaped.bandLength, FarEnd.meanBand_eq some_band even, bandCount, seen,
    farValues]
  simp only [List.map_map, Function.comp_def]

/-- A frame to the loudspeaker enters a history with the values that its effect hears. -/
theorem farEnd_render (stored : engine.Stored) (wellFormed : frame.WellFormed)
    (echo : EchoEffect) : echo.farEnd (render frame engine).state.rack =
      (echo.farEnd engine.rack).push (engine.hears echo (.render frame)) := by
  cases mismatch : engine.frameFault engine.format.reverseChannels frame with
  | some fault => simp [render, hears, takesIn, mismatch]
  | none =>
    obtain ⟨recorder, state⟩ :=
      recording_state (Trace.Recorder.recordFrame .rendered frame) engine
    cases result : (recording (Trace.Recorder.recordFrame .rendered frame) engine).result with
    | error fault =>
      simp [render, hears, takesIn, mismatch, result, state, Except.isOk, Except.toBool]
    | ok answer =>
      have entered := EchoEffect.farEnd_renderEach engine.rack (engine.loadRendered frame) echo
      rw [ofBuffer_loadRendered stored wellFormed mismatch] at entered
      have rack : (observe { engine with recorder } frame).state.rack =
          (RenderStage.runEach (engine.loadRendered frame) RenderStage.order engine.rack).2 :=
        rack_observe { engine with recorder } frame
      simp [render, hears, takesIn, mismatch, result, state, rack, entered, Except.isOk,
        Except.toBool]

/-- A call that is about the format starts the engine anew, and the history of an effect that gets
prepared becomes silent, or it is refused and changes nothing. -/
theorem farEnd_target {attempt : Except FormatError Format}
    (change : call.target? engine.format = some attempt) (echo : EchoEffect) :
    echo.farEnd (engine.perform call).state.rack =
      if engine.prepares call echo.kind = true then
        FarEnd.silent (engine.perform call).state.format echo.filterMs
      else echo.farEnd engine.rack := by
  cases attempt with
  | ok format =>
    have after := congrArg Outcome.state (perform_of_target change)
    rw [replying, restart_state] at after
    rw [after]
    dsimp only
    rw [EchoEffect.farEnd_prepareEach, prepares_of_target change]
    simp
  | error cause =>
    rw [(perform_of_target_error change).2, prepares_of_target_error change]
    simp

/-- Switching an effect makes its history silent when the effect goes on by that, and leaves all
histories otherwise: the call may be refused, the effect may go off, or it may have been on. -/
theorem farEnd_enable (engine : Engine) (kind : EffectKind) (enabled : Bool) (echo : EchoEffect) :
    echo.farEnd (engine.perform (.enable kind enabled)).state.rack =
      if engine.prepares (.enable kind enabled) echo.kind = true then
        FarEnd.silent (engine.perform (.enable kind enabled)).state.format echo.filterMs
      else echo.farEnd engine.rack := by
  have state : (engine.perform (.enable kind enabled)).state =
      (enable kind enabled engine).state := rfl
  rw [state]
  rcases engine.enable_prepares_cases kind enabled with ⟨after, unprepared⟩ |
    ⟨rack, rfl, -, prepared, after, prepares⟩ | ⟨-, after, unprepared⟩
  · rw [unprepared, after]
    rfl
  · have switched := EchoEffect.farEnd_prepare prepared echo
    rw [EchoEffect.farEnd_switch, Rack.isEnabled_switch] at switched
    rw [after, prepares]
    dsimp only
    rw [switched]
    simp
  · rw [unprepared, after]
    exact EchoEffect.farEnd_switch engine.rack enabled kind echo

/-- Every call either prepares an effect, and its history becomes silent, or leaves the history with
what the effect hears entered. Only a frame to the loudspeaker is heard. -/
theorem farEnd_perform (stored : engine.Stored) (wellFormed : call.WellFormed)
    (echo : EchoEffect) :
    echo.farEnd (engine.perform call).state.rack =
      if engine.prepares call echo.kind = true then
        FarEnd.silent (engine.perform call).state.format echo.filterMs
      else (echo.farEnd engine.rack).push (engine.hears echo call) := by
  cases change : call.target? engine.format with
  | some attempt =>
    have unheard : engine.hears echo call = [] := by
      cases call <;> first | rfl | cases change
    rw [unheard, FarEnd.push_nil]
    exact farEnd_target change echo
  | none =>
    cases call with
    | enable kind enabled =>
      have unheard : engine.hears echo (.enable kind enabled) = [] := rfl
      rw [unheard, FarEnd.push_nil]
      exact farEnd_enable engine kind enabled echo
    | adjust setting =>
      have unprepared : engine.prepares (.adjust setting) echo.kind = false := rfl
      have state : (engine.perform (.adjust setting)).state = (adjust setting engine).state := rfl
      rw [unprepared, state, adjust]
      cases taken : engine.rack.adjust setting with
      | ok rack => simp [hears, EchoEffect.farEnd_adjust taken]
      | error fault => simp [hears]
    | capture frame =>
      have unprepared : engine.prepares (.capture frame) echo.kind = false := rfl
      have unheard : engine.hears echo (.capture frame) = [] := rfl
      have state : (engine.perform (.capture frame)).state = (engine.capture frame).1.state := rfl
      rw [unprepared, unheard, FarEnd.push_nil, state]
      rcases capture_cases engine frame with ⟨_, -, -, after, -⟩ | ⟨_, _, -, -, -, after, -⟩ |
        ⟨recorder, -, -, -, after, -⟩
      · rw [after]
        rfl
      · rw [after]
        rfl
      · rw [after, (rack_process _ frame).1, EchoEffect.farEnd_captureEach]
        rfl
    | render frame =>
      have unprepared : engine.prepares (.render frame) echo.kind = false := rfl
      rw [unprepared]
      exact farEnd_render stored wellFormed echo
    | reportDelay ms =>
      have unprepared : engine.prepares (.reportDelay ms) echo.kind = false := rfl
      rw [unprepared, state_reportDelay]
      simp [hears]
    | restart => cases change
    | setRate hz => cases change
    | setChannels input output => cases change
    | setReverseChannels channels => cases change
    | _ =>
      -- None of the other calls touches an echo effect.
      cases echo <;> exact (FarEnd.push_nil _).symm

/-- A frame is taken in only where it fits the history. -/
theorem fits_of_takesIn {echo : EchoEffect} (taken : engine.takesIn echo frame = true) :
    engine.frameFault engine.format.reverseChannels frame = none ∧
      (echo.farEnd engine.rack).Fits (engine.loadRendered frame).bandLength := by
  simp only [takesIn, Bool.and_eq_true, Option.isNone_iff_eq_none] at taken
  obtain ⟨⟨⟨matching, -⟩, passed⟩, enabled⟩ := taken
  refine ⟨matching, ?_⟩
  cases first : RenderStage.echoCanceller.run engine.rack (engine.loadRendered frame) with
  | error fault =>
    cases echo <;> simp [EchoEffect.stages, RenderStage.runEach, first] at passed
  | ok cancelled =>
    cases echo with
    | canceller => exact (EchoEffect.heard first .canceller).fits rfl enabled
    | mobile =>
      have before := EchoEffect.heard first .mobile
      cases second : RenderStage.mobileEchoControl.run cancelled (engine.loadRendered frame) with
      | error fault => simp [EchoEffect.stages, RenderStage.runEach, first, second] at passed
      | ok controlled =>
        have fits := (EchoEffect.heard second .mobile).fits rfl (before.enabled.trans enabled)
        rwa [before.farEnd, if_neg (by simp [EchoEffect.stage]), FarEnd.push_nil] at fits

/-- An echo canceller takes in every frame that matches the format and is recorded while it is on:
its history always fits the frames of the format at hand. -/
theorem takesIn_canceller_iff (bounded : engine.Bounded) :
    engine.takesIn .canceller frame = true ↔
      engine.frameFault engine.format.reverseChannels frame = none ∧
        (recording (Trace.Recorder.recordFrame .rendered frame) engine).result.isOk = true ∧
        engine.rack.echoCanceller.enabled = true := by
  have bandLength : (engine.loadRendered frame).bandLength = engine.format.bandLength := by
    rw [loadRendered, StreamBuffer.bandLength_splitChannels]
    exact bounded.stored.rendering.bandLength
  have passes (enabled : engine.rack.echoCanceller.enabled = true) :
      (RenderStage.runEach (engine.loadRendered frame) EchoEffect.canceller.stages
        engine.rack).1 = none := by
    have fits := (bounded.sized enabled).made.1.fits
    rw [← bandLength] at fits
    simp [EchoEffect.stages, RenderStage.runEach, RenderStage.run, EchoCanceller.render, enabled,
      fits, Except.map]
  simp only [takesIn, Bool.and_eq_true, Option.isNone_iff_eq_none]
  constructor
  · rintro ⟨⟨⟨matching, recorded⟩, -⟩, enabled⟩
    exact ⟨matching, recorded, enabled⟩
  · rintro ⟨matching, recorded, enabled⟩
    exact ⟨⟨⟨matching, recorded⟩, passes enabled⟩, enabled⟩

/-- Every call keeps a history holding what its effect heard. -/
theorem remembers_perform (stored : engine.Stored) (wellFormed : call.WellFormed)
    {echo : EchoEffect} {heard : List Scalar}
    (known : (echo.farEnd engine.rack).Remembers echo.filterMs heard) :
    (echo.farEnd (engine.perform call).state.rack).Remembers echo.filterMs
      (hearsOn echo heard engine call) := by
  rw [farEnd_perform stored wellFormed, hearsOn]
  split
  case isTrue => exact FarEnd.remembers_silent _ echo.filterMs
  case isFalse =>
    refine known.push ?_
    cases call with
    | render frame =>
      simp only [hears]
      split
      case isTrue taken =>
        obtain ⟨matching, fits⟩ := fits_of_takesIn taken
        rw [← ofBuffer_loadRendered stored wellFormed matching]
        have short := FarEnd.length_ofBuffer_le (engine.loadRendered frame)
        simp only [FarEnd.Fits, FarEnd.span] at fits
        omega
      case isFalse => exact Nat.zero_le _
    | _ => exact Nat.zero_le _

/-- What an effect heard in a run since it was prepared last. -/
def heardSince (engine : Engine) (echo : EchoEffect) (calls : List Call) : List Scalar :=
  engine.remember (hearsOn echo) [] calls

/-- One more call adds what the effect hears in it. -/
theorem heardSince_concat (engine : Engine) (echo : EchoEffect) (calls : List Call) (call : Call) :
    engine.heardSince echo (calls ++ [call]) =
      hearsOn echo (engine.heardSince echo calls) (engine.run calls).2 call := by
  have extended (note : List Scalar) : engine.remember (hearsOn echo) note (calls ++ [call]) =
      hearsOn echo (engine.remember (hearsOn echo) note calls) (engine.run calls).2 call := by
    induction calls generalizing engine note with
    | nil => rfl
    | cons first calls inductionHypothesis => exact inductionHypothesis _ _
  exact extended []

/-- After every run of well-formed calls the histories hold what their effects heard. -/
theorem remembers_run {blueprint : Blueprint} {created : Engine}
    (made : (create blueprint).1 = .ok created) (calls : List Call)
    (wellFormed : ∀ call ∈ calls, call.WellFormed) (echo : EchoEffect) :
    (echo.farEnd (created.run calls).2.rack).Remembers echo.filterMs
      (created.heardSince echo calls) := by
  obtain ⟨format, supported, rfl⟩ := create_eq_ok made
  have start : (blank blueprint.id format).Stored ∧
      (echo.farEnd (blank blueprint.id format).rack).Remembers echo.filterMs [] := by
    refine ⟨stored_blank blueprint.id supported, ?_⟩
    cases echo <;> exact ⟨rfl, rfl, rfl⟩
  refine (remember_induction (hearsOn echo) (fun heard engine => engine.Stored ∧
    (echo.farEnd engine.rack).Remembers echo.filterMs heard) ?_ [] (blank blueprint.id format) calls
    wellFormed start).2
  rintro heard engine call formed ⟨stored, known⟩
  exact ⟨stored.perform formed, remembers_perform stored formed known⟩

/-- A frame that reaches an echo canceller that is on is heard behind what was heard before. -/
theorem heardSince_render {blueprint : Blueprint} {created : Engine}
    (made : (create blueprint).1 = .ok created) (calls : List Call) (frame : Frame)
    (wellFormed : ∀ call ∈ calls, call.WellFormed)
    (reaches : let engine := (created.run calls).2
      engine.frameFault engine.format.reverseChannels frame = none ∧
        (recording (Trace.Recorder.recordFrame .rendered frame) engine).result.isOk = true ∧
        engine.rack.echoCanceller.enabled = true) :
    created.heardSince .canceller (calls ++ [.render frame]) =
      created.heardSince .canceller calls ++ (created.run calls).2.farValues frame := by
  have bounded : (created.run calls).2.Bounded :=
    Reachable.bounded ⟨blueprint, calls, created, made, wellFormed, rfl⟩
  have kept : (created.run calls).2.prepares (.render frame) EchoEffect.canceller.kind = false :=
    rfl
  rw [heardSince_concat, hearsOn, kept, hears, if_pos ((takesIn_canceller_iff bounded).mpr reaches)]
  rfl

end Engine

end VoiceEngine
