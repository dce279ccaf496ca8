/-!
# Stream formats

Audio is processed in blocks of ten milliseconds at one of three rates. At the highest
rate a block is split into two half-rate bands and the effects run on the lower one, so
the effects see either 8000 or 16000 samples a second.

A format fixes the rate and the channel counts of both streams: one or two channels
arrive from the microphone, at most as many leave, and one or two channels go to the
loudspeaker. A format is changed one aspect at a time, and a change that is not supported
names its cause.
-/

namespace VoiceEngine

/-- The supported sample rates. -/
inductive SampleRate
  /-- 8000 samples a second. -/
  | narrow
  /-- 16000 samples a second. -/
  | wide
  /-- 32000 samples a second, processed as two bands of 16000. -/
  | superWide
  deriving DecidableEq

/-- Why a format was refused. -/
inductive FormatError
  /-- The rate is not one of the supported ones. -/
  | unsupportedRate (hz : UInt32)
  /-- A channel count is neither one nor two. -/
  | unsupportedChannels (count : Nat)
  /-- More channels would leave than arrive. -/
  | outputExceedsInput (output input : Nat)
  deriving DecidableEq

/-- The largest number of channels of any stream. -/
def maxChannels : Nat := 2

/-- The name of the cause of a refusal. -/
def FormatError.name : FormatError → String
  | .unsupportedRate _ => "UnsupportedSampleRate"
  | .unsupportedChannels _ => "UnsupportedChannelCount"
  | .outputExceedsInput .. => "OutputExceedsInput"

/-- The sentence for a refused format. -/
def FormatError.message : FormatError → String
  | .unsupportedRate hz =>
    "unsupported sample rate " ++ toString hz.toNat ++ "; expected 8000, 16000 or 32000"
  | .unsupportedChannels count =>
    "unsupported channel count " ++ toString count ++ "; expected 1..=" ++ toString maxChannels
  | .outputExceedsInput output input =>
    toString output ++ " output channels requested from " ++ toString input ++ " input channels"

namespace SampleRate

/-- Samples a second. -/
def hz : SampleRate → UInt32
  | narrow => 8000
  | wide => 16000
  | superWide => 32000

/-- Samples a second of the band that the effects see. -/
def bandHz : SampleRate → UInt32
  | narrow => 8000
  | wide => 16000
  | superWide => 16000

/-- Whether frames are split into two bands. -/
def isSplit (rate : SampleRate) : Bool := rate = superWide

/-- Samples of one channel in ten milliseconds. -/
def frameLength (rate : SampleRate) : Nat := rate.hz.toNat / 100

/-- Samples of one channel of one band in ten milliseconds. -/
def bandLength (rate : SampleRate) : Nat := rate.bandHz.toNat / 100

/-- Samples of one band in one millisecond. -/
def bandSamplesPerMs (rate : SampleRate) : Nat := rate.bandHz.toNat / 1000

/-- The rate with a given number of samples a second. -/
def ofHz? (hz : UInt32) : Except FormatError SampleRate :=
  if hz = 8000 then .ok narrow
  else if hz = 16000 then .ok wide
  else if hz = 32000 then .ok superWide
  else .error (.unsupportedRate hz)

/-- Reading a rate inverts writing it. -/
theorem ofHz?_hz (rate : SampleRate) : ofHz? rate.hz = .ok rate := by
  cases rate <;> rfl

end SampleRate

/-- The rate and the channel counts of both streams. -/
structure Format where
  rate : SampleRate := .wide
  reverseChannels : Nat := 1
  inputChannels : Nat := 1
  outputChannels : Nat := 1
  deriving DecidableEq

namespace Format

/-- A channel count passes when it is one or two. -/
def checkChannels (count : Nat) : Except FormatError Unit :=
  if 1 ≤ count ∧ count ≤ maxChannels then .ok () else .error (.unsupportedChannels count)

/-- The format with another rate. -/
def withRate (format : Format) (hz : UInt32) : Except FormatError Format :=
  match SampleRate.ofHz? hz with
  | .ok rate => .ok { format with rate }
  | .error cause => .error cause

/-- The format with another number of loudspeaker channels. -/
def withReverseChannels (format : Format) (channels : Nat) : Except FormatError Format :=
  match checkChannels channels with
  | .ok () => .ok { format with reverseChannels := channels }
  | .error cause => .error cause

/-- The format with other microphone channel counts. Asking for more output than input is
reported before a count that is out of range, and the input count before the output. -/
def withChannels (format : Format) (input output : Nat) : Except FormatError Format :=
  if input < output then .error (.outputExceedsInput output input)
  else
    match checkChannels input, checkChannels output with
    | .ok (), .ok () => .ok { format with inputChannels := input, outputChannels := output }
    | .error cause, _ => .error cause
    | .ok (), .error cause => .error cause

/-- Samples of one channel in one frame. -/
def frameLength (format : Format) : Nat := format.rate.frameLength

/-- Samples of one channel of one band in one frame. -/
def bandLength (format : Format) : Nat := format.rate.bandLength

/-- Whether fewer channels leave than arrive. -/
def mixesDown (format : Format) : Bool := format.outputChannels < format.inputChannels

/-- The channel counts that every accepted format has. -/
def Supported (format : Format) : Prop :=
  1 ≤ format.outputChannels ∧ format.outputChannels ≤ format.inputChannels ∧
    format.inputChannels ≤ maxChannels ∧
    1 ≤ format.reverseChannels ∧ format.reverseChannels ≤ maxChannels

instance (format : Format) : Decidable format.Supported := by
  unfold Supported
  infer_instance

/-- A count passes the check exactly when it is one or two. -/
theorem checkChannels_eq_ok_iff {count : Nat} :
    checkChannels count = .ok () ↔ 1 ≤ count ∧ count ≤ maxChannels := by
  unfold checkChannels
  split <;> simp_all

/-- Another rate keeps the channel counts. -/
theorem supported_withRate {format next : Format} {hz : UInt32} (supported : format.Supported)
    (accepted : format.withRate hz = .ok next) : next.Supported := by
  unfold withRate at accepted
  split at accepted
  · cases accepted
    exact supported
  · cases accepted

/-- An accepted number of loudspeaker channels leaves a supported format. -/
theorem supported_withReverseChannels {format next : Format} {channels : Nat}
    (supported : format.Supported) (accepted : format.withReverseChannels channels = .ok next) :
    next.Supported := by
  unfold withReverseChannels at accepted
  split at accepted
  case h_1 passed =>
    cases accepted
    have range := checkChannels_eq_ok_iff.1 passed
    exact ⟨supported.1, supported.2.1, supported.2.2.1, range.1, range.2⟩
  case h_2 => cases accepted

/-- Accepted microphone channel counts leave a supported format. -/
theorem supported_withChannels {format next : Format} {input output : Nat}
    (supported : format.Supported) (accepted : format.withChannels input output = .ok next) :
    next.Supported := by
  unfold withChannels at accepted
  split at accepted
  · cases accepted
  case isFalse ordered =>
    split at accepted
    case h_1 inputPassed outputPassed =>
      cases accepted
      have inputRange := checkChannels_eq_ok_iff.1 inputPassed
      have outputRange := checkChannels_eq_ok_iff.1 outputPassed
      exact ⟨outputRange.1, Nat.not_lt.1 ordered, inputRange.2, supported.2.2.2⟩
    case h_2 => cases accepted
    case h_3 => cases accepted

end Format

end VoiceEngine
