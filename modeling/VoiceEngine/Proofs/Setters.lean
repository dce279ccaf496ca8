import VoiceEngine.Proofs.Intake
import VoiceEngine.Rack

/-!
# Which setter of which effect a setting uses

Every setting is a value for one effect, and handing it over does one of two things to that effect
and nothing to any other: the effect accepts the value and changes by it, or refuses it as a bad
parameter and stays as it was. A setter is told by these two, the states that accept the value and
what becomes of them. `Setting.tuning` names the effect of every setting and its setter, and
`Rack.adjust_eq` shows that this is all that handing a value over does.

There are many settings and few effects. What is true of every setting is therefore proved effect by
effect, from what all setters of one effect have in common: `Rack.adjusted` says what that is.
-/

namespace VoiceEngine

/-- A setter of an effect: whether a state of the effect accepts the value, and what becomes of a
state that does. -/
structure Setter (State : Type) where
  allows : State → Bool := fun _ => true
  work : State → State

namespace Setter

variable {State : Type}

/-- The state after a setter. Whatever a state does not accept is a bad parameter. -/
def apply (setter : Setter State) (state : State) : Except Fault State :=
  if setter.allows state then .ok (setter.work state) else .error .badParameter

/-- What is made of the state after a setter is made of its work on a state that accepts the value.
-/
theorem of_map_apply {Result : Type} {setter : Setter State} {state : State}
    {place : State → Result} {result : Result}
    (taken : (setter.apply state).map place = .ok result) :
    setter.allows state = true ∧ place (setter.work state) = result := by
  obtain ⟨next, done, rfl⟩ := exists_of_map_eq_ok taken
  rw [apply] at done
  split at done
  case isTrue accepted => exact ⟨accepted, congrArg place (Except.ok.inj done)⟩
  case isFalse => cases done

/-- A setter looks at no more of a state than a view of it: whether the value is accepted, and the
view of the state afterwards, follow from the view before. -/
structure Respects (setter : Setter State) (view : State → State) : Prop where
  allows : ∀ state, setter.allows state = setter.allows (view state)
  settled : ∀ state, view (setter.work state) = view (setter.work (view state))

/-- A sound card has one of a range of rates. -/
def deviceRate (hz : Nat) : Setter EchoCanceller where
  allows _ := decide (EchoCanceller.minDeviceHz ≤ hz ∧ hz ≤ EchoCanceller.maxDeviceHz)
  work effect := { effect with deviceHz := hz }

/-- A range of the volume lies within the limits and is not empty; the recommendation is moved into
it. -/
def volumeRange (lowest highest : Int) : Setter GainControl where
  allows _ := decide (0 ≤ lowest ∧ highest ≤ GainControl.volumeLimit ∧ lowest < highest)
  work effect :=
    { effect with
      minVolume := lowest
      maxVolume := highest
      recommended := Word.clip lowest highest effect.recommended }

/-- A target level lies within its limits. -/
def targetLevel (target : Int) : Setter GainControl where
  allows _ := decide (0 ≤ target ∧ target ≤ GainControl.targetLimit)
  work effect := { effect with target }

/-- A largest gain lies within its limits. -/
def compressionGain (compression : Int) : Setter GainControl where
  allows _ := decide (0 ≤ compression ∧ compression ≤ GainControl.compressionLimit)
  work effect := { effect with compression }

/-- A volume lies in the range that is set. It is the only value whose acceptance depends on the
state of its effect. -/
def volume (volume : Int) : Setter GainControl where
  allows effect := decide (effect.minVolume ≤ volume ∧ volume ≤ effect.maxVolume)
  work effect := { effect with volume, volumeIsSet := true }

/-- A decision window has one of three lengths, and what was collected for another is dropped. -/
def voiceWindow (ms : Nat) : Setter VoiceDetector where
  allows _ := decide (ms = 10 ∨ ms = 20 ∨ ms = 30)
  work detector := { detector with windowMs := ms, windowPower := 0.0, windowFrames := 0 }

end Setter

theorem EchoCanceller.setDeviceRate_eq (effect : EchoCanceller) (hz : Nat) :
    effect.setDeviceRate hz = (Setter.deviceRate hz).apply effect := by
  simp only [setDeviceRate, Setter.apply, Setter.deviceRate, decide_eq_true_eq]

theorem GainControl.setVolumeRange_eq (effect : GainControl) (lowest highest : Int) :
    effect.setVolumeRange lowest highest = (Setter.volumeRange lowest highest).apply effect := by
  have opposite : (lowest < 0 ∨ volumeLimit < highest ∨ highest ≤ lowest) ↔
      ¬ (0 ≤ lowest ∧ highest ≤ volumeLimit ∧ lowest < highest) := by omega
  simp only [setVolumeRange, Setter.apply, Setter.volumeRange, decide_eq_true_eq, opposite, ite_not]

theorem GainControl.setTarget_eq (effect : GainControl) (target : Int) :
    effect.setTarget target = (Setter.targetLevel target).apply effect := by
  simp only [setTarget, Setter.apply, Setter.targetLevel, decide_eq_true_eq]

theorem GainControl.setCompression_eq (effect : GainControl) (compression : Int) :
    effect.setCompression compression = (Setter.compressionGain compression).apply effect := by
  simp only [setCompression, Setter.apply, Setter.compressionGain, decide_eq_true_eq]

theorem GainControl.setVolume_eq (effect : GainControl) (volume : Int) :
    effect.setVolume volume = (Setter.volume volume).apply effect := by
  have opposite : (volume < effect.minVolume ∨ effect.maxVolume < volume) ↔
      ¬ (effect.minVolume ≤ volume ∧ volume ≤ effect.maxVolume) := by omega
  simp only [setVolume, Setter.apply, Setter.volume, decide_eq_true_eq, opposite, ite_not]

theorem VoiceDetector.setWindow_eq (detector : VoiceDetector) (ms : Nat) :
    detector.setWindow ms = (Setter.voiceWindow ms).apply detector := by
  simp only [setWindow, Setter.apply, Setter.voiceWindow, decide_eq_true_eq]

/-- A setter of one of the effects. The high-pass filter and the level meter have none. -/
inductive Tuning
  | echoCanceller (setter : Setter EchoCanceller)
  | mobileEchoControl (setter : Setter MobileEchoControl)
  | gainControl (setter : Setter GainControl)
  | noiseSuppressor (setter : Setter NoiseSuppressor)
  | voiceDetector (setter : Setter VoiceDetector)

/-- The rack after a setter of one of its effects. -/
def Tuning.apply (rack : Rack) : Tuning → Except Fault Rack
  | .echoCanceller setter =>
    (setter.apply rack.echoCanceller).map fun echoCanceller => { rack with echoCanceller }
  | .mobileEchoControl setter =>
    (setter.apply rack.mobileEchoControl).map fun mobileEchoControl =>
      { rack with mobileEchoControl }
  | .gainControl setter =>
    (setter.apply rack.gainControl).map fun gainControl => { rack with gainControl }
  | .noiseSuppressor setter =>
    (setter.apply rack.noiseSuppressor).map fun noiseSuppressor => { rack with noiseSuppressor }
  | .voiceDetector setter =>
    (setter.apply rack.voiceDetector).map fun voiceDetector => { rack with voiceDetector }

/-- The setter that a setting uses. -/
def Setting.tuning : Setting → Tuning
  | .echoSuppression suppression => .echoCanceller { work := ({ · with suppression }) }
  | .driftCompensation compensatesDrift => .echoCanceller { work := ({ · with compensatesDrift }) }
  | .deviceRate hz => .echoCanceller (.deviceRate hz)
  | .drift samples => .echoCanceller { work := (·.setDrift samples) }
  | .echoMetrics enabled => .echoCanceller { work := (·.setMeasures enabled) }
  | .routing chosen => .mobileEchoControl { work := ({ · with routing := chosen }) }
  | .comfortNoise enabled => .mobileEchoControl { work := ({ · with comfortNoise := enabled }) }
  | .gainMode mode => .gainControl { work := ({ · with mode }) }
  | .volumeRange lowest highest => .gainControl (.volumeRange lowest highest)
  | .targetLevel target => .gainControl (.targetLevel target)
  | .compressionGain compression => .gainControl (.compressionGain compression)
  | .limiter limits => .gainControl { work := ({ · with limits }) }
  | .volume reported => .gainControl (.volume reported)
  | .noiseSuppression strength => .noiseSuppressor { work := ({ · with strength }) }
  | .voiceLikelihood likelihood => .voiceDetector { work := ({ · with likelihood }) }
  | .voiceWindow ms => .voiceDetector (.voiceWindow ms)
  | .voice hasVoice => .voiceDetector { work := (·.supply hasVoice) }

/-- Handing a value over is what its setter does to its effect. -/
theorem Rack.adjust_eq (rack : Rack) (setting : Setting) :
    rack.adjust setting = setting.tuning.apply rack := by
  cases setting with
  | deviceRate hz => rw [adjust, EchoCanceller.setDeviceRate_eq]; rfl
  | volumeRange lowest highest => rw [adjust, GainControl.setVolumeRange_eq]; rfl
  | targetLevel target => rw [adjust, GainControl.setTarget_eq]; rfl
  | compressionGain compression => rw [adjust, GainControl.setCompression_eq]; rfl
  | volume volume => rw [adjust, GainControl.setVolume_eq]; rfl
  | voiceWindow ms => rw [adjust, VoiceDetector.setWindow_eq]; rfl
  | _ => rfl

/-- What becomes of a rack when a setting is accepted: one effect is changed by its setter, and the
others are as they were. -/
inductive Rack.Adjusted (rack : Rack) (setting : Setting) : Rack → Prop
  | echoCanceller (setter : Setter EchoCanceller)
      (its : setting.tuning = .echoCanceller setter)
      (accepted : setter.allows rack.echoCanceller = true) :
      Adjusted rack setting { rack with echoCanceller := setter.work rack.echoCanceller }
  | mobileEchoControl (setter : Setter MobileEchoControl)
      (its : setting.tuning = .mobileEchoControl setter)
      (accepted : setter.allows rack.mobileEchoControl = true) :
      Adjusted rack setting { rack with mobileEchoControl := setter.work rack.mobileEchoControl }
  | gainControl (setter : Setter GainControl)
      (its : setting.tuning = .gainControl setter)
      (accepted : setter.allows rack.gainControl = true) :
      Adjusted rack setting { rack with gainControl := setter.work rack.gainControl }
  | noiseSuppressor (setter : Setter NoiseSuppressor)
      (its : setting.tuning = .noiseSuppressor setter)
      (accepted : setter.allows rack.noiseSuppressor = true) :
      Adjusted rack setting { rack with noiseSuppressor := setter.work rack.noiseSuppressor }
  | voiceDetector (setter : Setter VoiceDetector)
      (its : setting.tuning = .voiceDetector setter)
      (accepted : setter.allows rack.voiceDetector = true) :
      Adjusted rack setting { rack with voiceDetector := setter.work rack.voiceDetector }

/-- A setting that is accepted changes one effect by its setter. -/
theorem Rack.adjusted {rack next : Rack} {setting : Setting}
    (taken : rack.adjust setting = .ok next) : rack.Adjusted setting next := by
  rw [adjust_eq] at taken
  cases its : setting.tuning with
  | echoCanceller setter =>
    rw [its] at taken
    obtain ⟨accepted, rfl⟩ := Setter.of_map_apply taken
    exact .echoCanceller setter its accepted
  | mobileEchoControl setter =>
    rw [its] at taken
    obtain ⟨accepted, rfl⟩ := Setter.of_map_apply taken
    exact .mobileEchoControl setter its accepted
  | gainControl setter =>
    rw [its] at taken
    obtain ⟨accepted, rfl⟩ := Setter.of_map_apply taken
    exact .gainControl setter its accepted
  | noiseSuppressor setter =>
    rw [its] at taken
    obtain ⟨accepted, rfl⟩ := Setter.of_map_apply taken
    exact .noiseSuppressor setter its accepted
  | voiceDetector setter =>
    rw [its] at taken
    obtain ⟨accepted, rfl⟩ := Setter.of_map_apply taken
    exact .voiceDetector setter its accepted

/-- What all setters of the echo canceller have in common: it stays switched as it was and keeps its
history and its channels. The drift is reported by one of them, and none withdraws the report. -/
structure EchoCanceller.Tuned (setting : Setting) (effect next : EchoCanceller) : Prop where
  enabled : next.enabled = effect.enabled
  farEnd : next.farEnd = effect.farEnd
  channels : next.channels = effect.channels
  drift : next.driftIsSet = true ↔
    (∃ samples, setting = .drift samples) ∨ effect.driftIsSet = true

/-- Mobile echo control, too, keeps its switch, its history and its channels. -/
structure MobileEchoControl.Tuned (effect next : MobileEchoControl) : Prop where
  enabled : next.enabled = effect.enabled
  farEnd : next.farEnd = effect.farEnd
  channels : next.channels = effect.channels

/-- No setter of gain control switches it or moves the gain, and only one moves the largest gain.
Another one reports the volume, and none withdraws the report. -/
structure GainControl.Tuned (setting : Setting) (effect next : GainControl) : Prop where
  enabled : next.enabled = effect.enabled
  gain : next.gain = effect.gain
  kept : (¬ ∃ compression, setting = .compressionGain compression) →
    next.compression = effect.compression
  volume : next.volumeIsSet = true ↔
    (∃ volume, setting = .volume volume) ∨ effect.volumeIsSet = true

namespace Setting

variable {setting : Setting}

/-- Every setter of the echo canceller. -/
theorem tuned_echoCanceller {setter : Setter EchoCanceller}
    (its : setting.tuning = .echoCanceller setter) (effect : EchoCanceller) :
    EchoCanceller.Tuned setting effect (setter.work effect) := by
  cases setting <;> cases its <;>
    exact ⟨rfl, rfl, rfl, by simp [Setter.deviceRate, EchoCanceller.setDrift,
      EchoCanceller.setMeasures]⟩

/-- Every setter of mobile echo control. -/
theorem tuned_mobileEchoControl {setter : Setter MobileEchoControl}
    (its : setting.tuning = .mobileEchoControl setter) (effect : MobileEchoControl) :
    MobileEchoControl.Tuned effect (setter.work effect) := by
  cases setting <;> cases its <;> exact ⟨rfl, rfl, rfl⟩

/-- Every setter of gain control. -/
theorem tuned_gainControl {setter : Setter GainControl}
    (its : setting.tuning = .gainControl setter) (effect : GainControl) :
    GainControl.Tuned setting effect (setter.work effect) := by
  cases setting <;> cases its
  case compressionGain compression =>
    exact ⟨rfl, rfl, fun other => absurd ⟨compression, rfl⟩ other, by simp [Setter.compressionGain]⟩
  all_goals
    exact ⟨rfl, rfl, fun _ => rfl, by simp [Setter.volumeRange, Setter.targetLevel, Setter.volume]⟩

/-- No setter switches the noise suppressor or touches its channels. -/
theorem tuned_noiseSuppressor {setter : Setter NoiseSuppressor}
    (its : setting.tuning = .noiseSuppressor setter) (effect : NoiseSuppressor) :
    (setter.work effect).enabled = effect.enabled ∧
      (setter.work effect).channels = effect.channels := by
  cases setting <;> cases its
  exact ⟨rfl, rfl⟩

/-- No setter switches the voice detector. -/
theorem tuned_voiceDetector {setter : Setter VoiceDetector}
    (its : setting.tuning = .voiceDetector setter) (effect : VoiceDetector) :
    (setter.work effect).enabled = effect.enabled := by
  cases setting <;> cases its <;> rfl

end Setting

end VoiceEngine
