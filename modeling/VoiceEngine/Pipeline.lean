import VoiceEngine.Rack
import VoiceEngine.StreamDelay

/-!
# The order of the stages

A captured frame passes the stages of the effects in a fixed order and stops at the first
stage that fails. Gain control takes part twice: it measures the frame early and applies
its gain late. A snapshot of the low bands is taken before noise suppression, but only when
mobile echo control will compare against it. A frame on its way to the loudspeaker passes
the effects that model echo or level, and none of them changes it.

The engine can be built with level estimation and without it. The orders are those of the
build with level estimation; without it the last stage of each is left out, and the level
meter can be switched and read but never measures a frame.
-/

namespace VoiceEngine

/-- One stage of a captured frame. -/
inductive CaptureStage
  | highPass
  | measureGain
  | echoCanceller
  | snapshot
  | noiseSuppressor
  | mobileEchoControl
  | voiceDetector
  | applyGain
  | levelMeter
  deriving DecidableEq

/-- One stage of a frame on its way to the loudspeaker. -/
inductive RenderStage
  | echoCanceller
  | mobileEchoControl
  | gainControl
  | levelMeter
  deriving DecidableEq

namespace CaptureStage

/-- The stages in their order, in the build with level estimation. -/
def order : List CaptureStage :=
  [highPass, measureGain, echoCanceller, snapshot, noiseSuppressor, mobileEchoControl,
    voiceDetector, applyGain, levelMeter]

/-- The name of a stage in notices. -/
def name : CaptureStage → String
  | highPass => "HighPassFilter"
  | measureGain => "AnalyzeGain"
  | echoCanceller => "EchoCancellation"
  | snapshot => "SnapshotReference"
  | noiseSuppressor => "NoiseSuppression"
  | mobileEchoControl => "EchoControlMobile"
  | voiceDetector => "VoiceDetection"
  | applyGain => "ApplyGain"
  | levelMeter => "LevelEstimation"

/-- Runs one stage. -/
def run (delay : StreamDelay) (rack : Rack) (audio : StreamBuffer) : CaptureStage → Pass Rack
  | highPass =>
    let pass := rack.highPass.capture audio
    ⟨pass.fault, { rack with highPass := pass.effect }, pass.audio⟩
  | measureGain => .done { rack with gainControl := rack.gainControl.measure audio } audio
  | echoCanceller =>
    let pass := rack.echoCanceller.capture delay audio
    ⟨pass.fault, { rack with echoCanceller := pass.effect }, pass.audio⟩
  | snapshot =>
    if rack.mobileEchoControl.enabled ∧ rack.noiseSuppressor.enabled then
      .done rack audio.takeSnapshot
    else .done rack audio
  | noiseSuppressor =>
    let pass := rack.noiseSuppressor.capture audio
    ⟨pass.fault, { rack with noiseSuppressor := pass.effect }, pass.audio⟩
  | mobileEchoControl =>
    let pass := rack.mobileEchoControl.capture delay audio
    ⟨pass.fault, { rack with mobileEchoControl := pass.effect }, pass.audio⟩
  | voiceDetector => .done { rack with voiceDetector := rack.voiceDetector.capture audio } audio
  | applyGain =>
    let pass := rack.gainControl.capture audio
    ⟨pass.fault, { rack with gainControl := pass.effect }, pass.audio⟩
  | levelMeter => .done { rack with levelMeter := rack.levelMeter.capture audio } audio

/-- Runs stages in order up to the first that fails: which one and why, and the rack and
the audio as they are left. -/
def runEach (delay : StreamDelay) :
    List CaptureStage → Rack → StreamBuffer → Option (CaptureStage × Fault) × Rack × StreamBuffer
  | [], rack, audio => (none, rack, audio)
  | stage :: stages, rack, audio =>
    let pass := stage.run delay rack audio
    match pass.fault with
    | none => runEach delay stages pass.effect pass.audio
    | some fault => (some (stage, fault), pass.effect, pass.audio)

end CaptureStage

namespace RenderStage

/-- The stages in their order, in the build with level estimation. -/
def order : List RenderStage := [echoCanceller, mobileEchoControl, gainControl, levelMeter]

/-- The name of a stage in notices. -/
def name : RenderStage → String
  | echoCanceller => "EchoCancellation"
  | mobileEchoControl => "EchoControlMobile"
  | gainControl => "GainControl"
  | levelMeter => "LevelEstimation"

/-- Runs one stage. -/
def run (rack : Rack) (audio : StreamBuffer) : RenderStage → Except Fault Rack
  | echoCanceller =>
    (rack.echoCanceller.render audio).map fun echoCanceller => { rack with echoCanceller }
  | mobileEchoControl =>
    (rack.mobileEchoControl.render audio).map fun mobileEchoControl =>
      { rack with mobileEchoControl }
  | gainControl => .ok { rack with gainControl := rack.gainControl.render audio }
  | levelMeter => .ok { rack with levelMeter := rack.levelMeter.render audio }

/-- Runs stages in order up to the first that fails: which one and why, and the rack as it
is left. -/
def runEach (audio : StreamBuffer) :
    List RenderStage → Rack → Option (RenderStage × Fault) × Rack
  | [], rack => (none, rack)
  | stage :: stages, rack =>
    match stage.run rack audio with
    | .ok next => runEach audio stages next
    | .error fault => (some (stage, fault), rack)

end RenderStage

end VoiceEngine
