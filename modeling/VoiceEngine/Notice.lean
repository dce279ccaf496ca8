import VoiceEngine.Pipeline

/-!
# Notices

An engine reports what happens to it as notices. A notice names a cause; its severity, its
sentence and the details that go with it follow from the cause. Most notices carry the
identifier that the owner gave to the engine; those about recordings do not.
-/

namespace VoiceEngine

/-- How serious a notice is. -/
inductive Severity
  | error
  | warn
  | debug
  | trace
  deriving DecidableEq

/-- The name of a severity. -/
def Severity.name : Severity → String
  | .error => "ERROR"
  | .warn => "WARN"
  | .debug => "DEBUG"
  | .trace => "TRACE"

/-- The value of one detail of a notice. -/
inductive Detail
  | number (value : Int)
  | flag (value : Bool)
  | text (value : String)
  deriving DecidableEq

/-- What a notice is about. -/
inductive Notice
  | formatRejected (cause : FormatError)
  | created (id : Int)
  | started (id : Int) (format : Format)
  | startFailed (id : Int) (kind : EffectKind) (fault : Fault)
  | echoEffectsExclude (id : Int) (kind : EffectKind)
  | enableFailed (id : Int) (kind : EffectKind) (fault : Fault)
  | switched (id : Int) (kind : EffectKind) (enabled : Bool)
  | delayClamped (id : Int) (ms : Int)
  | captureStageFailed (id : Int) (stage : CaptureStage) (fault : Fault)
  | renderStageFailed (id : Int) (stage : RenderStage) (fault : Fault)
  | captured (id : Int)
  | rendered (id : Int)
  | idChanged (old new : Int)
  | recordingNotOpened (path cause : String)
  | recordingOpened (path : String)
  | headerNotWritten (cause : String)
  | recordNotWritten (cause : String)
  | recordingNotFlushed (cause : String)
  | recordingStopped
  | closeFailed (id : Int) (fault : Fault)
  deriving DecidableEq

namespace Notice

/-- The severity of a notice. -/
def severity : Notice → Severity
  | startFailed .. | enableFailed .. | recordingNotOpened .. | headerNotWritten _
  | recordNotWritten _ | recordingNotFlushed _ | closeFailed .. => .error
  | formatRejected _ | echoEffectsExclude .. | delayClamped .. => .warn
  | created _ | started .. | switched .. | idChanged .. | recordingOpened _
  | recordingStopped => .debug
  | captureStageFailed .. | renderStageFailed .. | captured _ | rendered _ => .trace

/-- The sentence of a notice. -/
def message : Notice → String
  | formatRejected _ => "rejected stream configuration"
  | created _ => "audio processing created"
  | started .. => "initialized"
  | startFailed .. => "component initialization failed"
  | echoEffectsExclude .. => "echo cancellation and mobile echo control are exclusive"
  | enableFailed .. => "failed to enable component"
  | switched .. => "component toggled"
  | delayClamped .. => "stream delay clamped to " ++ toString StreamDelay.limit ++ " ms"
  | captureStageFailed .. => "capture stage failed"
  | renderStageFailed .. => "render stage failed"
  | captured _ => "capture frame processed"
  | rendered _ => "render frame analyzed"
  | idChanged .. => "unique id changed"
  | recordingNotOpened .. => "failed to open debug trace"
  | recordingOpened _ => "debug recording started"
  | headerNotWritten _ => "failed to write debug trace header"
  | recordNotWritten _ => "failed to write debug trace record"
  | recordingNotFlushed _ => "failed to flush debug trace"
  | recordingStopped => "debug recording stopped"
  | closeFailed .. => "failed to close debug trace on drop"

/-- The details of a notice, by name. -/
def details : Notice → List (String × Detail)
  | formatRejected cause => [("err", .text cause.message)]
  | created id | captured id | rendered id => [("id", .number id)]
  | started id format =>
    [("id", .number id), ("sample_rate_hz", .number format.rate.hz.toNat),
      ("input_channels", .number format.inputChannels),
      ("output_channels", .number format.outputChannels),
      ("reverse_channels", .number format.reverseChannels)]
  | startFailed id kind fault | enableFailed id kind fault =>
    [("id", .number id), ("component", .text kind.name), ("err", .text fault.message)]
  | echoEffectsExclude id kind => [("id", .number id), ("component", .text kind.name)]
  | switched id kind enabled =>
    [("id", .number id), ("component", .text kind.name), ("enable", .flag enabled)]
  | delayClamped id ms => [("id", .number id), ("delay", .number ms)]
  | captureStageFailed id stage fault =>
    [("id", .number id), ("stage", .text stage.name), ("err", .text fault.message)]
  | renderStageFailed id stage fault =>
    [("id", .number id), ("stage", .text stage.name), ("err", .text fault.message)]
  | idChanged old new => [("old", .number old), ("new", .number new)]
  | recordingNotOpened path cause => [("path", .text path), ("err", .text cause)]
  | recordingOpened path => [("path", .text path)]
  | headerNotWritten cause | recordNotWritten cause | recordingNotFlushed cause =>
    [("err", .text cause)]
  | recordingStopped => []
  | closeFailed id fault => [("id", .number id), ("err", .text fault.message)]

end Notice

end VoiceEngine
