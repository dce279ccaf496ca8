import VoiceEngine.Engine.Call
import VoiceEngine.Engine.VersionText

/-!
# Handles

A caller that knows only machine integers and addresses holds a handle, which is missing or
leads to an engine. A request on a handle is first checked: numbers that can be no rate,
count or effect and addresses that are missing are refused. A request that passes is
exactly one call on the engine. Every request answers with a status, whose code is zero
when the call succeeded and the code of the fault otherwise.

Audio arrives in a buffer of interleaved samples. When a captured frame was processed, its
samples replace as many at the start of the buffer; after a failure the buffer is as it
was.
-/

namespace VoiceEngine

/-- How a request ended: without a fault, or with one. -/
abbrev Status := Option Fault

namespace Status

/-- The integer code of a status, by a table of its own: callers with machine integers only know the
codes of statuses, and those of faults belong to the engine. -/
def code : Status → Int
  | none => 0
  | some .unspecified => -1
  | some .nullPointer => -5
  | some .badParameter => -6
  | some .badSampleRate => -7
  | some .badDataLength => -8
  | some .badChannelCount => -9
  | some .file => -10
  | some .parameterNotSet => -11
  | some .notEnabled => -12
  | some .parameterClamped => -13

/-- The status of a result. -/
def ofResult {Answer : Type} : Except Fault Answer → Status
  | .ok _ => none
  | .error fault => some fault

end Status

/-- The path of a recording as it arrives. -/
inductive PathArgument
  /-- The address is missing. -/
  | missing
  /-- The bytes are no text. -/
  | malformed
  /-- A path, and what opening it gives. -/
  | path (name : String) (opened : Except String Trace.Sink)

/-- Audio as it arrives: a buffer that may be missing, and three numbers. -/
structure AudioArgument where
  buffer : Option (List Sample)
  rate : Int
  channels : Int
  length : Int

/-- What can be asked through a handle. -/
inductive Request
  | restart
  | setRate (hz : Int)
  | setChannels (input output : Int)
  | setReverseChannels (channels : Int)
  | reportDelay (ms : Int)
  | changeId (id : Int)
  | enable (effect : Int) (enabled : Bool)
  | capture (audio : AudioArgument)
  | render (audio : AudioArgument)
  | record (path : PathArgument)
  | stopRecording

namespace EffectKind

/-- The effect with a given number, counting in their order from zero. -/
def ofNumber? (number : Int) : Option EffectKind :=
  if number < 0 then none else all[number.toNat]?

end EffectKind

/-- A number that has to be a count. -/
def count? (fault : Fault) (number : Int) : Except Fault Nat :=
  if number < 0 then .error fault else .ok number.toNat

/-- The frame that audio stands for. The buffer is looked at first, then the rate, the
channels and the length. -/
def AudioArgument.frame? (audio : AudioArgument) : Except Fault Frame := do
  match audio.buffer with
  | none => .error .nullPointer
  | some samples =>
    let rate ← count? .badSampleRate audio.rate
    let channels ← count? .badChannelCount audio.channels
    let length ← count? .badDataLength audio.length
    Frame.ofInterleaved (.ofNat rate) channels (samples.take (channels * length))

/-- The call that a request asks for. -/
def Request.call? : Request → Except Fault Call
  | .restart => .ok .restart
  | .setRate hz => (count? .badParameter hz).map fun hz => .setRate (.ofNat hz)
  | .setChannels input output => do
    let input ← count? .badParameter input
    let output ← count? .badParameter output
    .ok (.setChannels input output)
  | .setReverseChannels channels => (count? .badParameter channels).map .setReverseChannels
  | .reportDelay ms => .ok (.reportDelay ms)
  | .changeId id => .ok (.changeId id)
  | .enable effect enabled =>
    match EffectKind.ofNumber? effect with
    | some kind => .ok (.enable kind enabled)
    | none => .error .badParameter
  | .capture audio => audio.frame?.map .capture
  | .render audio => audio.frame?.map .render
  | .record .missing => .error .nullPointer
  | .record .malformed => .error .file
  | .record (.path name opened) => .ok (.recordFile name opened)
  | .stopRecording => .ok .stopRecording

/-- A handle: missing, or leading to an engine. -/
abbrev Handle := Option Engine

/-- How a request ended, and what it left behind. -/
structure Response where
  status : Status
  handle : Handle
  /-- The frame that a successful capture gives back. -/
  frame : Option Frame := none
  notices : List Notice := []
  released : List Trace.Sink := []

namespace Handle

/-- Creates an engine with the format that is in force without a choice. -/
def create (id : Int) : Handle :=
  match (Engine.create { id }).1 with
  | .ok engine => some engine
  | .error _ => none

/-- The frame of a reply, if it holds one. -/
def frameOfReply : Except Fault Reply → Option Frame
  | .ok (.frame frame) => some frame
  | _ => none

/-- Carries out a request. -/
def request (handle : Handle) (request : Request) : Response :=
  match handle with
  | none => { status := some .nullPointer, handle := none }
  | some engine =>
    match request.call? with
    | .error fault => { status := some fault, handle := some engine }
    | .ok call =>
      let outcome := engine.perform call
      { status := .ofResult outcome.result
        handle := some outcome.state
        frame := frameOfReply outcome.result
        notices := outcome.notices
        released := outcome.released }

/-- The buffer of a capture after its response. -/
def writeBack (response : Response) (buffer : List Sample) : List Sample :=
  match response.frame with
  | some frame => frame.data ++ buffer.drop frame.data.length
  | none => buffer

/-- A number of an engine, or the code for a missing one. -/
def number (handle : Handle) (read : Engine → Int) : Int :=
  match handle with
  | none => Status.code (some .nullPointer)
  | some engine => read engine

/-- The sample rate. -/
def rate (handle : Handle) : Int := handle.number (·.format.rate.hz.toNat)

/-- The channels that arrive from the microphone. -/
def inputChannels (handle : Handle) : Int := handle.number (·.format.inputChannels)

/-- The channels that leave after processing. -/
def outputChannels (handle : Handle) : Int := handle.number (·.format.outputChannels)

/-- The channels that go to the loudspeaker. -/
def reverseChannels (handle : Handle) : Int := handle.number (·.format.reverseChannels)

/-- The reported stream delay. -/
def delayMs (handle : Handle) : Int := handle.number (·.delay.ms)

/-- Whether the effect with a given number is enabled; no effect of a missing engine is. -/
def isEnabled (handle : Handle) (effect : Int) : Bool :=
  match handle, EffectKind.ofNumber? effect with
  | some engine, some kind => engine.rack.isEnabled kind
  | _, _ => false

/-- Writes the version text into a buffer from a position on; both may be missing. The
status, and the buffer and the position afterwards. -/
def writeVersion (handle : Handle) (buffer : Option (List UInt8)) (position : Option Nat) :
    Status × Option (List UInt8) × Option Nat :=
  match handle, buffer, position with
  | some _, some cells, some start =>
    let written := VersionText.writeInto cells start
    (written.fault, some written.buffer, some written.position)
  | _, _, _ => (some .nullPointer, buffer, position)

end Handle

end VoiceEngine
