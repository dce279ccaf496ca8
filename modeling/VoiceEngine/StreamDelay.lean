import VoiceEngine.Fault

/-!
# The reported stream delay

Echo control needs to know how long a far-end frame takes until its echo reaches the
microphone. The delay has to be reported again for every pair of frames, so a flag records
whether a report arrived since the last far-end frame. Every report raises the flag,
whatever its value: a negative delay is refused and keeps the earlier value, and a delay
beyond the limit is moved to the limit with a warning.
-/

namespace VoiceEngine

/-- The last delay and whether it was reported for the frame at hand. -/
structure StreamDelay where
  ms : Int := 0
  isSet : Bool := false
  deriving DecidableEq

namespace StreamDelay

/-- The longest delay, in milliseconds. -/
def limit : Int := 500

/-- What a report answers. -/
def reportFault (ms : Int) : Option Fault :=
  if ms < 0 then some .badParameter
  else if limit < ms then some .parameterClamped
  else none

/-- The delay after a report. -/
def report (delay : StreamDelay) (ms : Int) : StreamDelay :=
  { ms := if ms < 0 then delay.ms else min ms limit, isSet := true }

/-- The delay when no report is in force any more. -/
def forget (delay : StreamDelay) : StreamDelay := { delay with isSet := false }

/-- A delay within the limits stays within them. -/
theorem report_bounds (delay : StreamDelay) (ms : Int) (bounds : 0 ≤ delay.ms ∧ delay.ms ≤ limit) :
    0 ≤ (delay.report ms).ms ∧ (delay.report ms).ms ≤ limit := by
  unfold report limit at *
  dsimp only
  split <;> omega

end StreamDelay

end VoiceEngine
