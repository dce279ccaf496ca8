import VoiceEngine.StreamBuffer

/-!
# The far-end history

Echo control compares the microphone with what the loudspeaker played some time before.
The history is a delay line of constant length: every far-end frame enters at the new end
and as many of the oldest values leave. Its length covers the longest delay, the frame
itself and, for an adaptive filter, the older values that its taps reach back to.

A far-end value is the mean of the low bands of all far-end channels.
-/

namespace VoiceEngine

/-- A delay line of far-end values. -/
structure FarEnd where
  /-- Values that one millisecond holds. -/
  samplesPerMs : Nat := 0
  /-- The longest delay, in values. -/
  maxDelay : Nat := 0
  /-- Values that a filter reaches back to, counting the newest. -/
  taps : Nat := 0
  /-- The values, oldest first. -/
  history : List Scalar := []

namespace FarEnd

/-- The longest delay, in milliseconds. -/
def maxDelayMs : Nat := 500

/-- The number of values that a history for frames of one length holds. -/
def span (farEnd : FarEnd) (frameLength : Nat) : Nat :=
  farEnd.maxDelay + farEnd.taps + frameLength

/-- A silent history for a format and a filter of `filterMs` milliseconds. -/
def silent (format : Format) (filterMs : Nat) : FarEnd :=
  let samplesPerMs := format.rate.bandSamplesPerMs
  let maxDelay := maxDelayMs * samplesPerMs
  let taps := filterMs * samplesPerMs
  { samplesPerMs, maxDelay, taps
    history := List.replicate (maxDelay + taps + format.bandLength) 0.0 }

/-- Whether the history was made for frames of this length. -/
def Fits (farEnd : FarEnd) (frameLength : Nat) : Prop :=
  farEnd.history.length = farEnd.span frameLength

instance (farEnd : FarEnd) (frameLength : Nat) : Decidable (farEnd.Fits frameLength) := by
  unfold Fits
  infer_instance

/-- The mean of several bands, instant by instant. -/
def meanBand (length : Nat) (bands : List (List Sample)) : List Scalar :=
  let sums := bands.foldl (fun sums band =>
    List.zipWith (fun sum sample => sum + Sample.toScalar sample) sums band)
    (List.replicate length 0.0)
  sums.map (· / Scalar.ofCount (max bands.length 1))

/-- The values that a far-end frame contributes. -/
def ofBuffer (audio : StreamBuffer) : List Scalar := meanBand audio.bandLength audio.lowBands

/-- The history after a frame: its values enter and as many of the oldest leave. -/
def push (farEnd : FarEnd) (values : List Scalar) : FarEnd :=
  { farEnd with history := farEnd.history.drop values.length ++ values }

/-- A delay in values, never more than the longest one. -/
def delayOf (farEnd : FarEnd) (ms : Int) : Nat :=
  min (ms.toNat * farEnd.samplesPerMs) farEnd.maxDelay

/-- Where the frame that is played `delay` values before the newest frame begins. -/
def start (farEnd : FarEnd) (frameLength delay : Nat) : Nat :=
  farEnd.history.length - frameLength - delay

/-- The frame that was played `delay` values before the newest frame. -/
def reference (farEnd : FarEnd) (frameLength delay : Nat) : List Scalar :=
  (farEnd.history.drop (farEnd.start frameLength delay)).take frameLength

/-- The values that the taps reach back to before that frame, newest first. -/
def context (farEnd : FarEnd) (frameLength delay : Nat) : List Scalar :=
  let start := farEnd.start frameLength delay
  ((farEnd.history.drop (start + 1 - farEnd.taps)).take (farEnd.taps - 1)).reverse

/-- A silent history fits frames of its format. -/
theorem fits_silent (format : Format) (filterMs : Nat) :
    (silent format filterMs).Fits format.bandLength := by
  simp [Fits, span, silent]

/-- A frame that is not longer than the history leaves its length unchanged. -/
theorem length_push (farEnd : FarEnd) (values : List Scalar)
    (short : values.length ≤ farEnd.history.length) :
    (farEnd.push values).history.length = farEnd.history.length := by
  simp only [push, List.length_append, List.length_drop]
  omega

end FarEnd

end VoiceEngine
