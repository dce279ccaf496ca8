import VoiceEngine.Pipeline
import VoiceEngine.Proofs.Setters

/-!
# What an effect shows

An effect that is off keeps whatever it heard while it was on, but shows nothing of it: it passes
every frame, and going on it is prepared from its settings alone. Two states of an effect show the
same when their settings agree and, if the effect is on, the whole states do.

Everything an effect does is of one of three kinds. Work on audio is only done while the effect is
on. A setting changes the settings in the same way whatever else the state holds. Preparing reads
the settings alone.

What is said of one effect or one stage carries over to several in a row, for any relation of racks.
-/

namespace VoiceEngine

/-- What every effect has: a switch, and the state with its settings that never heard anything. -/
class Configurable (State : Type) where
  enabled : State → Bool
  settings : State → State
  enabled_settings (state : State) : enabled (settings state) = enabled state

/-- Two states of an effect show the same: their settings agree, and if the effect is on the whole
states do. -/
structure ShowSame {State : Type} [Configurable State] (first second : State) : Prop where
  settings : Configurable.settings first = Configurable.settings second
  state : Configurable.enabled first = true → first = second

/-- Two attempts fail alike, or succeed with related values. -/
def SameOutcome {Value : Type} (Related : Value → Value → Prop) :
    Except Fault Value → Except Fault Value → Prop
  | .ok first, .ok second => Related first second
  | .error first, .error second => first = second
  | .ok _, .error _ => False
  | .error _, .ok _ => False

/-- How two attempts can end alike. -/
theorem SameOutcome.cases {Value : Type} {Related : Value → Value → Prop}
    {first second : Except Fault Value} (same : SameOutcome Related first second) :
    (∃ fault, first = .error fault ∧ second = .error fault) ∨
      ∃ one other, first = .ok one ∧ second = .ok other ∧ Related one other := by
  cases first with
  | error fault =>
    cases second with
    | error cause => exact .inl ⟨fault, rfl, congrArg Except.error same.symm⟩
    | ok other => exact same.elim
  | ok one =>
    cases second with
    | error cause => exact same.elim
    | ok other => exact .inr ⟨one, other, rfl, rfl, same⟩

/-- Values that are related stay related when the same is done with both. -/
theorem SameOutcome.map {Value Result : Type} {Related : Value → Value → Prop}
    {Alike : Result → Result → Prop} {first second : Except Fault Value}
    (same : SameOutcome Related first second) {one other : Value → Result}
    (kept : ∀ left right, Related left right → Alike (one left) (other right)) :
    SameOutcome Alike (first.map one) (second.map other) := by
  rcases same.cases with ⟨fault, rfl, rfl⟩ | ⟨left, right, rfl, rfl, related⟩
  · rfl
  · exact kept left right related

/-- A setter ends alike for states that both accept the value or both do not, when its work leaves
them related. -/
theorem Setter.apply_related {State : Type} {Related : State → State → Prop} {setter : Setter State}
    {first second : State} (allows : setter.allows first = setter.allows second)
    (related : Related (setter.work first) (setter.work second)) :
    SameOutcome Related (setter.apply first) (setter.apply second) := by
  simp only [apply, allows]
  split
  · exact related
  · rfl

/-- When preparing one effect ends alike for related racks, so does preparing effects in a row. -/
theorem Rack.prepareEach_related {Related : Rack → Rack → Prop} {format other : Format}
    (prepare : ∀ {first second : Rack}, Related first second → ∀ kind,
      SameOutcome Related (first.prepare format kind) (second.prepare other kind))
    {first second : Rack} (known : Related first second) (kinds : List EffectKind) :
    (prepareEach format kinds first).1 = (prepareEach other kinds second).1 ∧
      Related (prepareEach format kinds first).2 (prepareEach other kinds second).2 := by
  induction kinds generalizing first second with
  | nil => exact ⟨rfl, known⟩
  | cons kind kinds inductionHypothesis =>
    simp only [prepareEach]
    rcases (prepare known kind).cases with
      ⟨fault, failed, alsoFailed⟩ | ⟨one, other, done, alsoDone, prepared⟩
    · rw [failed, alsoFailed]
      exact ⟨rfl, known⟩
    · rw [done, alsoDone]
      exact inductionHypothesis prepared

/-- When one stage over a frame to the loudspeaker ends alike for related racks, so do stages in a
row. -/
theorem RenderStage.runEach_related {Related : Rack → Rack → Prop} {audio : StreamBuffer}
    (run : ∀ {first second : Rack}, Related first second → ∀ stage : RenderStage,
      SameOutcome Related (stage.run first audio) (stage.run second audio))
    {first second : Rack} (known : Related first second) (stages : List RenderStage) :
    (runEach audio stages first).1 = (runEach audio stages second).1 ∧
      Related (runEach audio stages first).2 (runEach audio stages second).2 := by
  induction stages generalizing first second with
  | nil => exact ⟨rfl, known⟩
  | cons stage stages inductionHypothesis =>
    simp only [runEach]
    rcases (run known stage).cases with
      ⟨fault, failed, alsoFailed⟩ | ⟨one, other, done, alsoDone, left⟩
    · rw [failed, alsoFailed]
      exact ⟨rfl, known⟩
    · rw [done, alsoDone]
      exact inductionHypothesis left

/-- A change whose settings follow from the settings before it keeps settings equal. -/
theorem Configurable.settings_congr {State : Type} [Configurable State] {first second : State}
    (work : State → State) (same : settings first = settings second)
    (settled : ∀ state : State, settings (work state) = settings (work (settings state))) :
    settings (work first) = settings (work second) := by
  rw [settled first, settled second, same]

/-- A setter changes the settings by the settings alone, and does not switch the effect. -/
structure Setter.ChangesSettings {State : Type} [Configurable State] (setter : Setter State) : Prop
    extends setter.Respects Configurable.settings where
  enabled : ∀ state, Configurable.enabled (setter.work state) = Configurable.enabled state

namespace ShowSame

variable {State : Type} [Configurable State] {first second : State}

/-- A state shows the same as itself. -/
theorem refl (state : State) : ShowSame state state := ⟨rfl, fun _ => rfl⟩

/-- Both states are on or both are off. -/
theorem enabled (known : ShowSame first second) :
    Configurable.enabled first = Configurable.enabled second := by
  rw [← Configurable.enabled_settings first, known.settings, Configurable.enabled_settings]

/-- What holds of equal states, and of states that are both off, holds of states that show the
same. -/
theorem elim {motive : State → State → Prop} (known : ShowSame first second)
    (on : ∀ state, motive state state)
    (off : Configurable.enabled first = false → Configurable.enabled second = false →
      motive first second) : motive first second := by
  cases enabled : Configurable.enabled first with
  | true =>
    rw [known.state enabled]
    exact on second
  | false => exact off enabled (known.enabled.symm.trans enabled)

/-- Work that an effect does only while it is on leaves states that show the same. -/
theorem step (work : State → State) (known : ShowSame first second)
    (idle : ∀ state : State, Configurable.enabled state = false → work state = state) :
    ShowSame (work first) (work second) := by
  apply known.elim (motive := fun first second => ShowSame (work first) (work second))
  · exact fun state => refl (work state)
  · intro off alsoOff
    rw [idle first off, idle second alsoOff]
    exact known

/-- A pass that an effect makes only while it is on has the same fault, leaves the same audio and
states that show the same. -/
theorem pass (work : State → Pass State) {audio : StreamBuffer} (known : ShowSame first second)
    (idle : ∀ state : State, Configurable.enabled state = false →
      work state = .done state audio) :
    (work first).fault = (work second).fault ∧ (work first).audio = (work second).audio ∧
      ShowSame (work first).effect (work second).effect := by
  apply known.elim (motive := fun first second =>
    (work first).fault = (work second).fault ∧ (work first).audio = (work second).audio ∧
      ShowSame (work first).effect (work second).effect)
  · exact fun state => ⟨rfl, rfl, refl (work state).effect⟩
  · intro off alsoOff
    rw [idle first off, idle second alsoOff]
    exact ⟨rfl, rfl, known⟩

/-- Work that an effect attempts only while it is on ends alike. -/
theorem attempt (work : State → Except Fault State) (known : ShowSame first second)
    (idle : ∀ state : State, Configurable.enabled state = false → work state = .ok state) :
    SameOutcome ShowSame (work first) (work second) := by
  apply known.elim (motive := fun first second =>
    SameOutcome ShowSame (work first) (work second))
  · intro state
    cases work state with
    | ok next => exact refl next
    | error fault => rfl
  · intro off alsoOff
    rw [idle first off, idle second alsoOff]
    exact known

/-- Reading from an effect, which is refused while it is off, gives the same value and leaves states
that show the same. -/
theorem read {Value : Type} (work : State → Except Fault Value × State)
    (known : ShowSame first second)
    (idle : ∀ state : State, Configurable.enabled state = false →
      work state = (.error .notEnabled, state)) :
    (work first).1 = (work second).1 ∧ ShowSame (work first).2 (work second).2 := by
  apply known.elim (motive := fun first second =>
    (work first).1 = (work second).1 ∧ ShowSame (work first).2 (work second).2)
  · exact fun state => ⟨rfl, refl (work state).2⟩
  · intro off alsoOff
    rw [idle first off, idle second alsoOff]
    exact ⟨rfl, known⟩

/-- A change whose settings follow from the settings before it, and that does not switch the effect
on, leaves states that show the same. -/
theorem change (work : State → State) (known : ShowSame first second)
    (settled : ∀ state : State, Configurable.settings (work state) =
      Configurable.settings (work (Configurable.settings state)))
    (still : Configurable.enabled (work first) = true → Configurable.enabled first = true) :
    ShowSame (work first) (work second) := by
  constructor
  · exact Configurable.settings_congr work known.settings settled
  · intro enabled
    rw [known.state (still enabled)]

/-- A setter that changes the settings by the settings alone ends alike, because states that show
the same have the same settings. -/
theorem set {setter : Setter State} (known : ShowSame first second)
    (changes : setter.ChangesSettings) :
    SameOutcome ShowSame (setter.apply first) (setter.apply second) := by
  apply Setter.apply_related
  · rw [changes.allows first, changes.allows second, known.settings]
  · exact known.change setter.work changes.settled fun enabled => by
      rwa [changes.enabled] at enabled

/-- Work that reads the settings alone while the effect is on, and is only done then, leaves states
that show the same. What the states held before does not matter. -/
theorem of_settings (work : State → State)
    (same : Configurable.settings first = Configurable.settings second)
    (reads : ∀ state : State, Configurable.enabled state = true →
      work state = work (Configurable.settings state))
    (idle : ∀ state : State, Configurable.enabled state = false → work state = state) :
    ShowSame (work first) (work second) := by
  have flag : Configurable.enabled first = Configurable.enabled second := by
    rw [← Configurable.enabled_settings first, same, Configurable.enabled_settings]
  cases on : Configurable.enabled first with
  | true =>
    rw [reads first on, same, ← reads second (flag.symm.trans on)]
    exact refl (work second)
  | false =>
    rw [idle first on, idle second (flag.symm.trans on)]
    refine ⟨same, ?_⟩
    intro enabled
    rw [on] at enabled
    cases enabled

end ShowSame

section Effects

instance : Configurable EchoCanceller where
  enabled := EchoCanceller.enabled
  settings effect :=
    { enabled := effect.enabled
      suppression := effect.suppression
      compensatesDrift := effect.compensatesDrift
      measures := effect.measures
      deviceHz := effect.deviceHz
      drift := effect.drift }
  enabled_settings _ := rfl

instance : Configurable MobileEchoControl where
  enabled := MobileEchoControl.enabled
  settings effect :=
    { enabled := effect.enabled
      routing := effect.routing
      comfortNoise := effect.comfortNoise }
  enabled_settings _ := rfl

instance : Configurable GainControl where
  enabled := GainControl.enabled
  settings effect :=
    { enabled := effect.enabled
      mode := effect.mode
      minVolume := effect.minVolume
      maxVolume := effect.maxVolume
      target := effect.target
      compression := effect.compression
      limits := effect.limits
      volume := effect.volume
      volumeIsSet := effect.volumeIsSet }
  enabled_settings _ := rfl

instance : Configurable HighPass where
  enabled := HighPass.enabled
  settings effect := { enabled := effect.enabled }
  enabled_settings _ := rfl

instance : Configurable LevelMeter where
  enabled := LevelMeter.enabled
  settings effect := { enabled := effect.enabled }
  enabled_settings _ := rfl

instance : Configurable NoiseSuppressor where
  enabled := NoiseSuppressor.enabled
  settings effect := { enabled := effect.enabled, strength := effect.strength }
  enabled_settings _ := rfl

instance : Configurable VoiceDetector where
  enabled := VoiceDetector.enabled
  settings effect :=
    { enabled := effect.enabled
      likelihood := effect.likelihood
      windowMs := effect.windowMs }
  enabled_settings _ := rfl

/-- A setter of one of the effects changes the settings of that effect by its settings alone. -/
def Tuning.ChangesSettings : Tuning → Prop
  | .echoCanceller setter => setter.ChangesSettings
  | .mobileEchoControl setter => setter.ChangesSettings
  | .gainControl setter => setter.ChangesSettings
  | .noiseSuppressor setter => setter.ChangesSettings
  | .voiceDetector setter => setter.ChangesSettings

/-- Every setting does so. Even the volume, which is compared with the range at hand, is compared
with settings. -/
theorem Setting.changesSettings (setting : Setting) : setting.tuning.ChangesSettings := by
  cases setting <;> exact ⟨⟨fun _ => rfl, fun _ => rfl⟩, fun _ => rfl⟩

end Effects

/-!
An effect that is off lets every frame pass and is prepared by leaving it as it is.
-/

namespace EchoCanceller

variable {effect : EchoCanceller} (off : effect.enabled = false)
include off

theorem prepare_of_off (format : Format) : effect.prepare format = effect := by
  simp [prepare, off]

theorem capture_of_off (delay : StreamDelay) (audio : StreamBuffer) :
    effect.capture delay audio = .done effect audio := by
  simp [capture, off]

theorem render_of_off (audio : StreamBuffer) : effect.render audio = .ok effect := by
  simp [render, off]

end EchoCanceller

namespace MobileEchoControl

variable {effect : MobileEchoControl} (off : effect.enabled = false)
include off

theorem prepare_of_off (format : Format) : effect.prepare format = .ok effect := by
  simp [prepare, off]

theorem capture_of_off (delay : StreamDelay) (audio : StreamBuffer) :
    effect.capture delay audio = .done effect audio := by
  simp [capture, off]

theorem render_of_off (audio : StreamBuffer) : effect.render audio = .ok effect := by
  simp [render, off]

end MobileEchoControl

namespace GainControl

variable {effect : GainControl} (off : effect.enabled = false)
include off

theorem prepare_of_off : effect.prepare = effect := by
  simp [prepare, off]

theorem measure_of_off (audio : StreamBuffer) : effect.measure audio = effect := by
  simp [measure, off]

theorem capture_of_off (audio : StreamBuffer) : effect.capture audio = .done effect audio := by
  simp [capture, off]

theorem render_of_off (audio : StreamBuffer) : effect.render audio = effect := by
  simp [render, off]

end GainControl

namespace HighPass

variable {effect : HighPass} (off : effect.enabled = false)
include off

theorem prepare_of_off (format : Format) : effect.prepare format = effect := by
  simp [prepare, off]

theorem capture_of_off (audio : StreamBuffer) : effect.capture audio = .done effect audio := by
  simp [capture, off]

end HighPass

namespace LevelMeter

variable {meter : LevelMeter} (off : meter.enabled = false)
include off

theorem prepare_of_off : meter.prepare = meter := by
  simp [prepare, off]

theorem capture_of_off (audio : StreamBuffer) : meter.capture audio = meter := by
  simp [capture, off]

theorem render_of_off (audio : StreamBuffer) : meter.render audio = meter := by
  simp [render, off]

theorem takeCaptured_of_off : meter.takeCaptured = (.error .notEnabled, meter) := by
  simp [takeCaptured, off]

theorem takeRendered_of_off : meter.takeRendered = (.error .notEnabled, meter) := by
  simp [takeRendered, off]

end LevelMeter

namespace NoiseSuppressor

variable {effect : NoiseSuppressor} (off : effect.enabled = false)
include off

theorem prepare_of_off (format : Format) : effect.prepare format = effect := by
  simp [prepare, off]

theorem capture_of_off (audio : StreamBuffer) : effect.capture audio = .done effect audio := by
  simp [capture, off]

end NoiseSuppressor

namespace VoiceDetector

variable {detector : VoiceDetector} (off : detector.enabled = false)
include off

theorem prepare_of_off : detector.prepare = detector := by
  simp [prepare, off]

theorem capture_of_off (audio : StreamBuffer) : detector.capture audio = detector := by
  simp [capture, off]

end VoiceDetector

/-!
Whatever an effect held before, preparing it reads its settings alone, and changes none of them.
-/

section Prepare

variable (format : Format)

/-- Preparing an echo canceller reads its settings alone. -/
theorem EchoCanceller.showSame_prepare {first second : EchoCanceller}
    (same : Configurable.settings first = Configurable.settings second) :
    ShowSame (first.prepare format) (second.prepare format) := by
  apply ShowSame.of_settings (·.prepare format) same
  · intro effect (on : effect.enabled = true)
    simp [prepare, Configurable.settings, on]
  · exact fun _ off => prepare_of_off off format

/-- Preparing mobile echo control reads its settings alone. -/
theorem MobileEchoControl.showSame_prepare {first second : MobileEchoControl}
    (same : Configurable.settings first = Configurable.settings second) :
    SameOutcome ShowSame (first.prepare format) (second.prepare format) := by
  have flag : first.enabled = second.enabled := (congrArg MobileEchoControl.enabled same :)
  have routing : first.routing = second.routing := (congrArg MobileEchoControl.routing same :)
  have noise : first.comfortNoise = second.comfortNoise :=
    (congrArg MobileEchoControl.comfortNoise same :)
  cases on : first.enabled with
  | true =>
    cases split : format.rate.isSplit with
    | true => simp [prepare, on, ← flag, split, SameOutcome]
    | false =>
      simp only [prepare, on, ← flag, split, routing, noise, Bool.not_true, Bool.false_eq_true,
        if_false, SameOutcome]
      exact ShowSame.refl _
  | false =>
    simp only [prepare, on, ← flag, Bool.not_false, if_true, SameOutcome]
    refine ⟨same, ?_⟩
    intro (enabled : first.enabled = true)
    rw [on] at enabled
    cases enabled

/-- Preparing gain control reads its settings alone. -/
theorem GainControl.showSame_prepare {first second : GainControl}
    (same : Configurable.settings first = Configurable.settings second) :
    ShowSame first.prepare second.prepare := by
  apply ShowSame.of_settings prepare same
  · intro effect (on : effect.enabled = true)
    simp [prepare, Configurable.settings, on]
  · exact fun _ off => prepare_of_off off

/-- Preparing a high-pass filter reads its settings alone. -/
theorem HighPass.showSame_prepare {first second : HighPass}
    (same : Configurable.settings first = Configurable.settings second) :
    ShowSame (first.prepare format) (second.prepare format) := by
  apply ShowSame.of_settings (·.prepare format) same
  · intro effect (on : effect.enabled = true)
    simp [prepare, Configurable.settings, on]
  · exact fun _ off => prepare_of_off off format

/-- Preparing a level meter reads its settings alone. -/
theorem LevelMeter.showSame_prepare {first second : LevelMeter}
    (same : Configurable.settings first = Configurable.settings second) :
    ShowSame first.prepare second.prepare := by
  apply ShowSame.of_settings prepare same
  · intro meter (on : meter.enabled = true)
    simp [prepare, Configurable.settings, on]
  · exact fun _ off => prepare_of_off off

/-- Preparing a noise suppressor reads its settings alone. -/
theorem NoiseSuppressor.showSame_prepare {first second : NoiseSuppressor}
    (same : Configurable.settings first = Configurable.settings second) :
    ShowSame (first.prepare format) (second.prepare format) := by
  apply ShowSame.of_settings (·.prepare format) same
  · intro effect (on : effect.enabled = true)
    simp [prepare, Configurable.settings, on]
  · exact fun _ off => prepare_of_off off format

/-- Preparing a voice detector reads its settings alone. -/
theorem VoiceDetector.showSame_prepare {first second : VoiceDetector}
    (same : Configurable.settings first = Configurable.settings second) :
    ShowSame first.prepare second.prepare := by
  apply ShowSame.of_settings prepare same
  · intro detector (on : detector.enabled = true)
    simp [prepare, forget, Configurable.settings, on]
  · exact fun _ off => prepare_of_off off

end Prepare

/-- Preparing changes no setting of an echo canceller. -/
theorem EchoCanceller.settings_prepare (effect : EchoCanceller) (format : Format) :
    Configurable.settings (effect.prepare format) = Configurable.settings effect := by
  cases on : effect.enabled with
  | true => simp [prepare, Configurable.settings, on]
  | false => rw [prepare_of_off on]

/-- Preparing changes no setting of mobile echo control. -/
theorem MobileEchoControl.settings_prepare {effect next : MobileEchoControl} {format : Format}
    (done : effect.prepare format = .ok next) :
    Configurable.settings next = Configurable.settings effect := by
  cases on : effect.enabled with
  | true =>
    cases split : format.rate.isSplit with
    | true => simp [prepare, on, split] at done
    | false =>
      simp only [prepare, on, split, Bool.not_true, Bool.false_eq_true, if_false,
        Except.ok.injEq] at done
      subst done
      simp [Configurable.settings, on]
  | false =>
    rw [prepare_of_off on] at done
    cases done
    rfl

/-- Preparing changes no setting of gain control. -/
theorem GainControl.settings_prepare (effect : GainControl) :
    Configurable.settings effect.prepare = Configurable.settings effect := by
  cases on : effect.enabled with
  | true => simp [prepare, Configurable.settings, on]
  | false => rw [prepare_of_off on]

/-- Preparing changes no setting of a high-pass filter. -/
theorem HighPass.settings_prepare (effect : HighPass) (format : Format) :
    Configurable.settings (effect.prepare format) = Configurable.settings effect := by
  cases on : effect.enabled with
  | true => simp [prepare, Configurable.settings, on]
  | false => rw [prepare_of_off on]

/-- Preparing changes no setting of a level meter. -/
theorem LevelMeter.settings_prepare (meter : LevelMeter) :
    Configurable.settings meter.prepare = Configurable.settings meter := by
  cases on : meter.enabled with
  | true => simp [prepare, Configurable.settings, on]
  | false => rw [prepare_of_off on]

/-- Preparing changes no setting of a noise suppressor. -/
theorem NoiseSuppressor.settings_prepare (effect : NoiseSuppressor) (format : Format) :
    Configurable.settings (effect.prepare format) = Configurable.settings effect := by
  cases on : effect.enabled with
  | true => simp [prepare, Configurable.settings, on]
  | false => rw [prepare_of_off on]

/-- Preparing changes no setting of a voice detector. -/
theorem VoiceDetector.settings_prepare (detector : VoiceDetector) :
    Configurable.settings detector.prepare = Configurable.settings detector := by
  cases on : detector.enabled with
  | true => simp [prepare, forget, Configurable.settings, on]
  | false => rw [prepare_of_off on]

end VoiceEngine
