import VoiceEngine.Effect.HighPass
import VoiceEngine.Effect.Kind
import VoiceEngine.Effect.LevelMeter
import VoiceEngine.Effect.Setting

/-!
# The rack of effects

The seven effects of one engine. An effect can be asked by its kind whether it is enabled,
be switched and be prepared for a format. Preparing all of them stops at the first that
refuses; the ones before it keep their new state and the ones after it their old.
-/

namespace VoiceEngine

/-- The effects of one engine. -/
structure Rack where
  echoCanceller : EchoCanceller := {}
  mobileEchoControl : MobileEchoControl := {}
  gainControl : GainControl := {}
  highPass : HighPass := {}
  levelMeter : LevelMeter := {}
  noiseSuppressor : NoiseSuppressor := {}
  voiceDetector : VoiceDetector := {}

namespace Rack

/-- Whether an effect is enabled. -/
def isEnabled (rack : Rack) : EffectKind → Bool
  | .echoCanceller => rack.echoCanceller.enabled
  | .mobileEchoControl => rack.mobileEchoControl.enabled
  | .gainControl => rack.gainControl.enabled
  | .highPass => rack.highPass.enabled
  | .levelMeter => rack.levelMeter.enabled
  | .noiseSuppressor => rack.noiseSuppressor.enabled
  | .voiceDetector => rack.voiceDetector.enabled

/-- The rack with one effect switched on or off and otherwise as it is. -/
def switch (rack : Rack) (enabled : Bool) : EffectKind → Rack
  | .echoCanceller => { rack with echoCanceller := { rack.echoCanceller with enabled } }
  | .mobileEchoControl =>
    { rack with mobileEchoControl := { rack.mobileEchoControl with enabled } }
  | .gainControl => { rack with gainControl := { rack.gainControl with enabled } }
  | .highPass => { rack with highPass := { rack.highPass with enabled } }
  | .levelMeter => { rack with levelMeter := { rack.levelMeter with enabled } }
  | .noiseSuppressor => { rack with noiseSuppressor := { rack.noiseSuppressor with enabled } }
  | .voiceDetector => { rack with voiceDetector := { rack.voiceDetector with enabled } }

/-- The rack with one effect prepared for a format; only one effect can refuse a format. -/
def prepare (rack : Rack) (format : Format) : EffectKind → Except Fault Rack
  | .echoCanceller => .ok { rack with echoCanceller := rack.echoCanceller.prepare format }
  | .mobileEchoControl =>
    match rack.mobileEchoControl.prepare format with
    | .ok prepared => .ok { rack with mobileEchoControl := prepared }
    | .error fault => .error fault
  | .gainControl => .ok { rack with gainControl := rack.gainControl.prepare }
  | .highPass => .ok { rack with highPass := rack.highPass.prepare format }
  | .levelMeter => .ok { rack with levelMeter := rack.levelMeter.prepare }
  | .noiseSuppressor => .ok { rack with noiseSuppressor := rack.noiseSuppressor.prepare format }
  | .voiceDetector => .ok { rack with voiceDetector := rack.voiceDetector.prepare }

/-- Prepares effects in order, up to the first that refuses: which one and why, and the
rack as it is left. -/
def prepareEach (format : Format) : List EffectKind → Rack → Option (EffectKind × Fault) × Rack
  | [], rack => (none, rack)
  | kind :: kinds, rack =>
    match rack.prepare format kind with
    | .ok prepared => prepareEach format kinds prepared
    | .error fault => (some (kind, fault), rack)

/-- Hands a value to the effect it is for. -/
def adjust (rack : Rack) : Setting → Except Fault Rack
  | .echoSuppression suppression =>
    .ok { rack with echoCanceller := { rack.echoCanceller with suppression } }
  | .driftCompensation compensatesDrift =>
    .ok { rack with echoCanceller := { rack.echoCanceller with compensatesDrift } }
  | .deviceRate hz =>
    (rack.echoCanceller.setDeviceRate hz).map fun echoCanceller =>
      { rack with echoCanceller }
  | .drift samples => .ok { rack with echoCanceller := rack.echoCanceller.setDrift samples }
  | .echoMetrics enabled =>
    .ok { rack with echoCanceller := rack.echoCanceller.setMeasures enabled }
  | .routing routing =>
    .ok { rack with mobileEchoControl := { rack.mobileEchoControl with routing } }
  | .comfortNoise comfortNoise =>
    .ok { rack with mobileEchoControl := { rack.mobileEchoControl with comfortNoise } }
  | .gainMode mode => .ok { rack with gainControl := { rack.gainControl with mode } }
  | .volumeRange lowest highest =>
    (rack.gainControl.setVolumeRange lowest highest).map fun gainControl =>
      { rack with gainControl }
  | .targetLevel target =>
    (rack.gainControl.setTarget target).map fun gainControl => { rack with gainControl }
  | .compressionGain compression =>
    (rack.gainControl.setCompression compression).map fun gainControl =>
      { rack with gainControl }
  | .limiter limits => .ok { rack with gainControl := { rack.gainControl with limits } }
  | .volume volume =>
    (rack.gainControl.setVolume volume).map fun gainControl => { rack with gainControl }
  | .noiseSuppression strength =>
    .ok { rack with noiseSuppressor := { rack.noiseSuppressor with strength } }
  | .voiceLikelihood likelihood =>
    .ok { rack with voiceDetector := { rack.voiceDetector with likelihood } }
  | .voiceWindow ms =>
    (rack.voiceDetector.setWindow ms).map fun voiceDetector => { rack with voiceDetector }
  | .voice hasVoice => .ok { rack with voiceDetector := rack.voiceDetector.supply hasVoice }

/-- A switched effect is in the state it was switched to. -/
@[simp] theorem isEnabled_switch (rack : Rack) (enabled : Bool) (kind : EffectKind) :
    (rack.switch enabled kind).isEnabled kind = enabled := by
  cases kind <;> rfl

/-- Switching one effect leaves the others as they are. -/
theorem isEnabled_switch_of_ne (rack : Rack) (enabled : Bool) {kind other : EffectKind}
    (different : other ≠ kind) :
    (rack.switch enabled kind).isEnabled other = rack.isEnabled other := by
  cases kind <;> cases other <;> first | rfl | exact absurd rfl different

/-- An effect that is off, switched on and off again, is as it was. -/
theorem switch_back {rack : Rack} {kind : EffectKind} (off : rack.isEnabled kind = false) :
    (rack.switch true kind).switch false kind = rack := by
  cases kind <;> simp only [switch, ← off, isEnabled]

end Rack

end VoiceEngine
