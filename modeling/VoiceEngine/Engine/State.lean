import VoiceEngine.Trace.Recorder

/-!
# The state of an engine

An engine has an identifier for its notices, a format, the reported stream delay, working
storage for the captured stream and for the stream to the loudspeaker, its effects and a
recorder.
-/

namespace VoiceEngine

/-- A voice engine. -/
structure Engine where
  id : Int
  format : Format
  delay : StreamDelay := {}
  /-- Storage of the stream from the microphone. -/
  capturing : StreamBuffer
  /-- Storage of the stream to the loudspeaker. -/
  rendering : StreamBuffer
  rack : Rack := {}
  recorder : Trace.Recorder := {}

namespace Engine

/-- An engine that was never started. -/
def blank (id : Int) (format : Format) : Engine :=
  { id, format, capturing := .ofFormat format, rendering := .ofFormat format }

/-- A call on the recorder alone. -/
def recording {Answer : Type} (call : Act Trace.Recorder Answer) : Act Engine Answer :=
  Act.within (·.recorder) (fun engine recorder => { engine with recorder }) call

/-- Whether a recording is going on. -/
def isRecording (engine : Engine) : Bool := engine.recorder.isOpen

end Engine

end VoiceEngine
