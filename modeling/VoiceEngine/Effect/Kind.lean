/-!
# The effects of an engine

An engine has seven effects. Their order here is the order in which they are prepared and
in which their versions are listed. Two of them have no version.
-/

namespace VoiceEngine

/-- Which effect. -/
inductive EffectKind
  | echoCanceller
  | mobileEchoControl
  | gainControl
  | highPass
  | levelMeter
  | noiseSuppressor
  | voiceDetector
  deriving DecidableEq

namespace EffectKind

/-- All effects in their order. -/
def all : List EffectKind :=
  [echoCanceller, mobileEchoControl, gainControl, highPass, levelMeter, noiseSuppressor,
    voiceDetector]

/-- The short name of an effect. -/
def name : EffectKind → String
  | echoCanceller => "echo_cancellation"
  | mobileEchoControl => "echo_control_mobile"
  | gainControl => "gain_control"
  | highPass => "high_pass_filter"
  | levelMeter => "level_estimator"
  | noiseSuppressor => "noise_suppression"
  | voiceDetector => "voice_detection"

/-- The version of an effect, empty when it has none. -/
def version : EffectKind → String
  | echoCanceller => "AEC 2.5.0"
  | mobileEchoControl => "AECM 1.2.0"
  | gainControl => "AGC 1.7.0"
  | highPass => ""
  | levelMeter => ""
  | noiseSuppressor => "NS 2.1.0"
  | voiceDetector => "VAD 1.3.0"

/-- The list of all effects leaves none out. -/
theorem mem_all (kind : EffectKind) : kind ∈ all := by
  cases kind <;> decide

end EffectKind

end VoiceEngine
