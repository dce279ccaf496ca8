import VoiceEngine.Effect.Pass
import VoiceEngine.Level

/-!
# Voice detector

The low bands of all captured channels are averaged, and the mean power over a decision
window of one to three frames is compared with a noise floor. A window is active when its
level is above an absolute minimum and clears the floor by a margin that depends on the
configured likelihood. An active window reports voice, and so do the three windows after
it. The floor follows the level down at once and rises slowly.

A decision can also be supplied from outside; then the next frame is not measured.
-/

namespace VoiceEngine

namespace VoiceDetector

/-- How readily voice is reported. -/
inductive Likelihood
  | veryLow
  | low
  | moderate
  | high
  deriving DecidableEq

/-- The margin above the noise floor that counts as voice, in decibels. -/
def Likelihood.margin : Likelihood → Scalar
  | veryLow => 12.0
  | low => 9.0
  | moderate => 6.0
  | high => 3.0

/-- Windows at or below this level are never voice. -/
def quietest : Scalar := -70.0

/-- Rise of the noise floor with every louder window, in decibels. -/
def floorRise : Scalar := 0.05

/-- Windows that report voice after the last active one. -/
def hangoverWindows : Nat := 3

/-- The mean square of the channel average, zero when there is nothing to measure. -/
def mixedPower (audio : StreamBuffer) : Scalar :=
  if audio.channelCount = 0 ∨ audio.bandLength = 0 then 0.0
  else
    let sums := audio.lowBands.foldl (fun sums band =>
      List.zipWith (fun (sum : Float) sample => sum + Float.ofInt sample.toInt) sums band)
      (List.replicate audio.bandLength 0.0)
    let channels := Float.ofNat audio.channelCount
    let total := sums.foldl (fun total sum =>
      let mixed := sum / channels
      total + mixed * mixed) 0.0
    (total / Float.ofNat audio.bandLength).toFloat32

end VoiceDetector

/-- The voice detector of the captured stream. -/
structure VoiceDetector where
  enabled : Bool := false
  likelihood : VoiceDetector.Likelihood := .low
  /-- The decision window in milliseconds. -/
  windowMs : Nat := 10
  /-- The decision for the last frame. -/
  hasVoice : Bool := false
  /-- Whether the next frame is covered by a decision from outside. -/
  decidedOutside : Bool := false
  noiseFloor : Option Scalar := none
  /-- Windows that still report voice without being active. -/
  hangover : Nat := 0
  /-- The power collected for the window at hand. -/
  windowPower : Scalar := 0.0
  /-- The frames collected for the window at hand. -/
  windowFrames : Nat := 0

namespace VoiceDetector

/-- The detector without any memory of audio; its settings stay. -/
def forget (detector : VoiceDetector) : VoiceDetector :=
  { detector with
    hasVoice := false
    decidedOutside := false
    noiseFloor := none
    hangover := 0
    windowPower := 0.0
    windowFrames := 0 }

/-- Forgets all audio; a disabled detector keeps what it has. -/
def prepare (detector : VoiceDetector) : VoiceDetector :=
  if detector.enabled then detector.forget else detector

/-- The noise floor after a window of a given level. -/
def floorAfter (detector : VoiceDetector) (level : Scalar) : Scalar :=
  match detector.noiseFloor with
  | none => level
  | some floor => Scalar.smaller level (floor + floorRise)

/-- Whether a window of a given level is active. -/
def isActive (detector : VoiceDetector) (level : Scalar) : Bool :=
  quietest < level && detector.floorAfter level + detector.likelihood.margin < level

/-- The detector after the outcome of the level test of one window. -/
def conclude (detector : VoiceDetector) (active : Bool) : VoiceDetector :=
  if active then { detector with hangover := hangoverWindows, hasVoice := true }
  else if 0 < detector.hangover then
    { detector with hangover := detector.hangover - 1, hasVoice := true }
  else { detector with hasVoice := false }

/-- The detector after a window of a given level. -/
def decide (detector : VoiceDetector) (level : Scalar) : VoiceDetector :=
  { detector with noiseFloor := some (detector.floorAfter level) }.conclude
    (detector.isActive level)

/-- The detector after a frame of a given power has been added to the window. -/
def collect (detector : VoiceDetector) (power : Scalar) : VoiceDetector :=
  let windowPower := detector.windowPower + power
  let windowFrames := detector.windowFrames + 1
  if windowFrames * 10 < detector.windowMs then { detector with windowPower, windowFrames }
  else
    let mean := windowPower / Scalar.ofCount windowFrames
    { detector with windowPower := 0.0, windowFrames := 0 }.decide (Level.ofPower mean)

/-- The detector after a captured frame. -/
def capture (detector : VoiceDetector) (audio : StreamBuffer) : VoiceDetector :=
  if !detector.enabled then detector
  else if detector.decidedOutside then { detector with decidedOutside := false }
  else detector.collect (mixedPower audio)

/-- Sets the decision window, which restarts; it is 10, 20 or 30 milliseconds long. -/
def setWindow (detector : VoiceDetector) (windowMs : Nat) : Except Fault VoiceDetector :=
  if windowMs = 10 ∨ windowMs = 20 ∨ windowMs = 30 then
    .ok { detector with windowMs, windowPower := 0.0, windowFrames := 0 }
  else .error .badParameter

/-- Supplies the decision for the next frame. -/
def supply (detector : VoiceDetector) (hasVoice : Bool) : VoiceDetector :=
  { detector with hasVoice, decidedOutside := true }

end VoiceDetector

end VoiceEngine
