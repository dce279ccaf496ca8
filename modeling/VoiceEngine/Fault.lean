/-!
# Faults

A call that cannot do what was asked ends with one fault. Each fault has a fixed integer
code for callers that know only numbers and a fixed sentence for people. One of them is a
warning: the call did take effect, with an adjusted value.
-/

namespace VoiceEngine

/-- Why a call ended without doing all that was asked. -/
inductive Fault
  /-- A failure with no more specific cause. -/
  | unspecified
  /-- A required address was missing. -/
  | nullPointer
  /-- An argument was out of range. -/
  | badParameter
  /-- The rate of a frame differs from the configured rate. -/
  | badSampleRate
  /-- The length of a frame differs from the configured length. -/
  | badDataLength
  /-- The channel count of a frame differs from the configured count. -/
  | badChannelCount
  /-- A recording could not be opened, written or closed. -/
  | file
  /-- A parameter that every frame needs was not given for this one. -/
  | parameterNotSet
  /-- The effect or measurement that was asked is disabled. -/
  | notEnabled
  /-- A parameter was moved into its range. -/
  | parameterClamped
  deriving DecidableEq

namespace Fault

/-- All faults. -/
def all : List Fault :=
  [unspecified, nullPointer, badParameter, badSampleRate, badDataLength, badChannelCount, file,
    parameterNotSet, notEnabled, parameterClamped]

/-- The name of a fault. -/
def name : Fault → String
  | unspecified => "Unspecified"
  | nullPointer => "NullPointer"
  | badParameter => "BadParameter"
  | badSampleRate => "BadSampleRate"
  | badDataLength => "BadDataLength"
  | badChannelCount => "BadNumberChannels"
  | file => "File"
  | parameterNotSet => "StreamParameterNotSet"
  | notEnabled => "NotEnabled"
  | parameterClamped => "BadStreamParameterWarning"

/-- The integer code of a fault. -/
def code : Fault → Int
  | unspecified => -1
  | nullPointer => -5
  | badParameter => -6
  | badSampleRate => -7
  | badDataLength => -8
  | badChannelCount => -9
  | file => -10
  | parameterNotSet => -11
  | notEnabled => -12
  | parameterClamped => -13

/-- The sentence for a fault. -/
def message : Fault → String
  | unspecified => "unspecified error"
  | nullPointer => "null pointer"
  | badParameter => "parameter out of range"
  | badSampleRate => "frame sample rate does not match configuration"
  | badDataLength => "frame length does not match configuration"
  | badChannelCount => "frame channel count does not match configuration"
  | file => "debug trace file error"
  | parameterNotSet => "stream parameter not set for this frame"
  | notEnabled => "component not enabled"
  | parameterClamped => "stream parameter clamped"

/-- Whether the call took effect all the same. -/
def isWarning (fault : Fault) : Bool := fault = parameterClamped

/-- The list of all faults leaves none out. -/
theorem mem_all (fault : Fault) : fault ∈ all := by
  cases fault <;> decide

/-- Different faults have different codes, so a code can be read back. -/
theorem code_injective {left right : Fault} (same : left.code = right.code) : left = right := by
  cases left <;> cases right <;> first | rfl | (simp [code] at same)

end Fault

end VoiceEngine
