import VoiceEngine.Effect.EchoCanceller
import VoiceEngine.Effect.GainControl
import VoiceEngine.Effect.MobileEchoControl
import VoiceEngine.Effect.NoiseSuppressor
import VoiceEngine.Effect.VoiceDetector

/-!
# Settings and stream parameters of the effects

Every value that a caller can hand to an effect, whether it stays in force or belongs to
the next frame only. The high-pass filter and the level meter have none.
-/

namespace VoiceEngine

/-- One value for one effect. -/
inductive Setting
  | echoSuppression (suppression : EchoCanceller.Suppression)
  | driftCompensation (enabled : Bool)
  | deviceRate (hz : Nat)
  | drift (samples : Int)
  | echoMetrics (enabled : Bool)
  | routing (routing : MobileEchoControl.Routing)
  | comfortNoise (enabled : Bool)
  | gainMode (mode : GainControl.Mode)
  | volumeRange (lowest highest : Int)
  | targetLevel (target : Int)
  | compressionGain (compression : Int)
  | limiter (enabled : Bool)
  | volume (volume : Int)
  | noiseSuppression (strength : NoiseSuppressor.Strength)
  | voiceLikelihood (likelihood : VoiceDetector.Likelihood)
  | voiceWindow (ms : Nat)
  | voice (hasVoice : Bool)
  deriving DecidableEq

end VoiceEngine
