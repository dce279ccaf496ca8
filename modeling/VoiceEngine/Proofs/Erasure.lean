import VoiceEngine.Proofs.History
import VoiceEngine.Proofs.Indistinct

/-!
# Starting anew erases what was heard

Starting an engine gives it new storage and prepares its effects, and both only read the format
and the settings. Two engines that agree in these are therefore indistinct once they were started,
whatever frames they took before and whatever their effects that are off still hold.
-/

namespace VoiceEngine

namespace Rack

/-- The settings of all effects, with the state of effects that never heard anything. -/
def settings (rack : Rack) : Rack where
  echoCanceller := Configurable.settings rack.echoCanceller
  mobileEchoControl := Configurable.settings rack.mobileEchoControl
  gainControl := Configurable.settings rack.gainControl
  highPass := Configurable.settings rack.highPass
  levelMeter := Configurable.settings rack.levelMeter
  noiseSuppressor := Configurable.settings rack.noiseSuppressor
  voiceDetector := Configurable.settings rack.voiceDetector

/-- One effect is in the same state in both racks. -/
def SameState (first second : Rack) : EffectKind → Prop
  | .echoCanceller => first.echoCanceller = second.echoCanceller
  | .mobileEchoControl => first.mobileEchoControl = second.mobileEchoControl
  | .gainControl => first.gainControl = second.gainControl
  | .highPass => first.highPass = second.highPass
  | .levelMeter => first.levelMeter = second.levelMeter
  | .noiseSuppressor => first.noiseSuppressor = second.noiseSuppressor
  | .voiceDetector => first.voiceDetector = second.voiceDetector

variable {first second : Rack}

/-- Indistinct racks have the same settings. -/
theorem Indistinct.settings (known : first.Indistinct second) :
    first.settings = second.settings := by
  simp only [Rack.settings, known.echoCanceller.settings, known.mobileEchoControl.settings,
    known.gainControl.settings, known.highPass.settings, known.levelMeter.settings,
    known.noiseSuppressor.settings, known.voiceDetector.settings]

/-- Effects that are on are in the same state in indistinct racks. -/
theorem Indistinct.sameState (known : first.Indistinct second) {kind : EffectKind}
    (enabled : first.isEnabled kind = true) : first.SameState second kind := by
  cases kind with
  | echoCanceller => exact known.echoCanceller.state enabled
  | mobileEchoControl => exact known.mobileEchoControl.state enabled
  | gainControl => exact known.gainControl.state enabled
  | highPass => exact known.highPass.state enabled
  | levelMeter => exact known.levelMeter.state enabled
  | noiseSuppressor => exact known.noiseSuppressor.state enabled
  | voiceDetector => exact known.voiceDetector.state enabled

/-- Preparing an effect changes no setting. -/
theorem settings_prepare {rack next : Rack} {format : Format} {kind : EffectKind}
    (done : rack.prepare format kind = .ok next) : next.settings = rack.settings := by
  cases kind with
  | mobileEchoControl =>
    rw [prepare_mobileEchoControl] at done
    obtain ⟨effect, prepared, rfl⟩ := exists_of_map_eq_ok done
    simp only [settings, MobileEchoControl.settings_prepare prepared]
  | _ =>
    cases done
    simp only [settings, EchoCanceller.settings_prepare, GainControl.settings_prepare,
      HighPass.settings_prepare, LevelMeter.settings_prepare, NoiseSuppressor.settings_prepare,
      VoiceDetector.settings_prepare]

/-- Preparing effects in a row changes no setting, even when one refuses. -/
theorem settings_prepareEach (rack : Rack) (format : Format) (kinds : List EffectKind) :
    (prepareEach format kinds rack).2.settings = rack.settings := by
  induction kinds generalizing rack with
  | nil => rfl
  | cons kind kinds inductionHypothesis =>
    simp only [prepareEach]
    cases done : rack.prepare format kind with
    | ok next => exact (inductionHypothesis next).trans (settings_prepare done)
    | error fault => rfl

/-- All effects are prepared, unless mobile echo control refuses; then only the echo canceller is,
which comes before it. -/
theorem prepareEach_all (rack : Rack) (format : Format) :
    rack.prepareEach format EffectKind.all =
      match rack.mobileEchoControl.prepare format with
      | .error fault =>
        (some (.mobileEchoControl, fault),
          { rack with echoCanceller := rack.echoCanceller.prepare format })
      | .ok mobileEchoControl =>
        (none,
          { echoCanceller := rack.echoCanceller.prepare format
            mobileEchoControl
            gainControl := rack.gainControl.prepare
            highPass := rack.highPass.prepare format
            levelMeter := rack.levelMeter.prepare
            noiseSuppressor := rack.noiseSuppressor.prepare format
            voiceDetector := rack.voiceDetector.prepare }) := by
  simp only [EffectKind.all, prepareEach, prepare]
  cases rack.mobileEchoControl.prepare format with
  | error fault => rfl
  | ok effect => rfl

/-- Preparing all effects of racks with the same settings ends alike. If none refuses, the racks are
indistinct, whatever their effects held before. -/
theorem prepareEach_of_settings (same : first.settings = second.settings) (format : Format) :
    (prepareEach format EffectKind.all first).1 = (prepareEach format EffectKind.all second).1 ∧
      ((prepareEach format EffectKind.all first).1 = none →
        (prepareEach format EffectKind.all first).2.Indistinct
          (prepareEach format EffectKind.all second).2) := by
  injection same with echo mobile gain high level noise voice
  rw [prepareEach_all, prepareEach_all]
  rcases (MobileEchoControl.showSame_prepare format mobile).cases with
    ⟨fault, failed, alsoFailed⟩ | ⟨one, other, done, alsoDone, shown⟩
  · rw [failed, alsoFailed]
    refine ⟨rfl, ?_⟩
    intro impossible
    cases impossible
  · rw [done, alsoDone]
    refine ⟨rfl, fun _ => ?_⟩
    exact
      { echoCanceller := EchoCanceller.showSame_prepare format echo
        mobileEchoControl := shown
        gainControl := GainControl.showSame_prepare gain
        highPass := HighPass.showSame_prepare format high
        levelMeter := LevelMeter.showSame_prepare level
        noiseSuppressor := NoiseSuppressor.showSame_prepare format noise
        voiceDetector := VoiceDetector.showSame_prepare voice }

end Rack

namespace Engine

/-- Neither the format nor the delay nor any setting differs. -/
structure KeepsSettings (before after : Engine) : Prop where
  format : after.format = before.format
  delay : after.delay.ms = before.delay.ms
  settings : after.rack.settings = before.rack.settings

/-- Starting an engine changes no setting, whether or not it answers. -/
theorem keepsSettings_restart (engine : Engine) : engine.KeepsSettings (restart engine).state := by
  rw [restart_state]
  exact ⟨rfl, rfl, Rack.settings_prepareEach engine.rack engine.format EffectKind.all⟩

/-- Engines that agree in their settings and do not record answer a start alike, and if they answer
are indistinct afterwards. -/
theorem indistinct_restart {first second : Engine} (format : first.format = second.format)
    (delay : first.delay.ms = second.delay.ms)
    (settings : first.rack.settings = second.rack.settings)
    (recorder : first.recorder = second.recorder) :
    (restart first).result = (restart second).result ∧
      ((restart first).result = .ok () →
        (restart first).state.Indistinct (restart second).state) := by
  obtain ⟨outcome, prepared⟩ := Rack.prepareEach_of_settings settings first.format
  rw [restart_result, restart_result, restart_state, restart_state, ← format, ← outcome]
  refine ⟨rfl, ?_⟩
  intro answered
  split at answered
  case h_1 complete =>
    have forgotten : first.delay.forget = second.delay.forget := by
      simp only [StreamDelay.forget, delay]
    exact ⟨rfl, forgotten, rfl, rfl, recorder, prepared complete⟩
  case h_2 => cases answered

/-- An engine that does not record has a recorder without a sink. -/
theorem recorder_of_idle {engine : Engine} (idle : engine.isRecording = false) :
    engine.recorder = {} := by
  obtain ⟨_, _, _, _, _, _, ⟨sink⟩⟩ := engine
  cases sink with
  | none => rfl
  | some sink => cases idle

/-- Starting anew erases everything an engine heard and keeps its settings.

Two engines with the same format, delay and settings that do not record answer a start alike. If
they answer, then after every sequence of calls they have answered alike, they would give back every
captured frame alike, and every effect that is on is in the same state in both. -/
theorem restart_erases (first second : Engine) (format : first.format = second.format)
    (delay : first.delay.ms = second.delay.ms)
    (settings : first.rack.settings = second.rack.settings)
    (idle : first.isRecording = false) (alsoIdle : second.isRecording = false) :
    (restart first).result = (restart second).result ∧
      first.KeepsSettings (restart first).state ∧ second.KeepsSettings (restart second).state ∧
      ((restart first).result = .ok () → ∀ calls : List Call,
        let one := (restart first).state.run calls
        let other := (restart second).state.run calls
        one.1 = other.1 ∧ (∀ frame, (one.2.capture frame).2 = (other.2.capture frame).2) ∧
          one.2.format = other.2.format ∧ one.2.delay = other.2.delay ∧
          one.2.rack.settings = other.2.rack.settings ∧
          ∀ kind, one.2.rack.isEnabled kind = other.2.rack.isEnabled kind ∧
            (one.2.rack.isEnabled kind = true → one.2.rack.SameState other.2.rack kind)) := by
  have recorder : first.recorder = second.recorder := by
    rw [recorder_of_idle idle, recorder_of_idle alsoIdle]
  obtain ⟨result, started⟩ := indistinct_restart format delay settings recorder
  refine ⟨result, keepsSettings_restart first, keepsSettings_restart second, ?_⟩
  intro answered calls
  obtain ⟨answers, final⟩ := (started answered).run calls
  refine ⟨answers, fun frame => (final.capture frame).2, final.format, final.delay, ?_, ?_⟩
  · exact final.rack.settings
  · intro kind
    exact ⟨final.rack.isEnabled kind, final.rack.sameState⟩

/-- An engine that took a frame to the loudspeaker, holds a decision on voice, and had noise
suppression on for a while. -/
def heard : Engine :=
  ((blank 0 {}).run [.enable .voiceDetector true, .enable .noiseSuppressor true,
    .render (Frame.silent 16000 1 160), .adjust (.voice true), .enable .noiseSuppressor false,
    .reportDelay 40]).2

/-- An engine with the same settings that took no frame and holds no decision. -/
def unheard : Engine :=
  ((blank 1 {}).run [.reportDelay 40, .enable .voiceDetector true]).2

/-- Once both engines are started anew, nothing tells them apart: their next frames come out alike,
and the decision is forgotten. -/
theorem restart_erases_heard :
    heard.format = unheard.format ∧ heard.delay.ms = unheard.delay.ms ∧
      heard.rack.settings = unheard.rack.settings ∧ heard.isRecording = false ∧
      unheard.isRecording = false ∧ (restart heard).result = .ok () ∧
      heard.rack.voiceDetector.hasVoice = true ∧ unheard.rack.voiceDetector.hasVoice = false ∧
      ∀ frame : Frame,
        ((restart heard).state.run [.capture frame]).1 =
          ((restart unheard).state.run [.capture frame]).1 := by
  have settings : heard.rack.settings = unheard.rack.settings := rfl
  have answered : (restart heard).result = .ok () := rfl
  obtain ⟨-, -, -, later⟩ := restart_erases heard unheard rfl rfl settings rfl rfl
  refine ⟨rfl, rfl, settings, rfl, rfl, answered, rfl, rfl, ?_⟩
  intro frame
  exact (later answered [.capture frame]).1

end Engine

end VoiceEngine
