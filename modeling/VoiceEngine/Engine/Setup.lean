import VoiceEngine.Engine.State

/-!
# Setting an engine up

Starting an engine allocates its storage, forgets that a delay was reported and prepares
the effects in their order, up to the first that refuses the format. A change of format
starts the engine anew and is kept even when that fails. A format that is not supported
is refused before anything changes.

An effect is prepared when it is switched on while it was off; if it refuses, it is
switched off again. The two echo effects are never on together.
-/

namespace VoiceEngine

/-- What a new engine is to be. -/
structure Blueprint where
  id : Int := 0
  rate : UInt32 := 16000
  inputChannels : Nat := 1
  outputChannels : Nat := 1
  reverseChannels : Nat := 1

/-- The format of a blueprint: the rate is looked at first, then the channels of the
microphone, then those of the loudspeaker. -/
def Blueprint.format (blueprint : Blueprint) : Except FormatError Format := do
  let rated ← Format.withRate {} blueprint.rate
  let fed ← rated.withChannels blueprint.inputChannels blueprint.outputChannels
  fed.withReverseChannels blueprint.reverseChannels

/-- A blueprint that is accepted has a supported format. -/
theorem Blueprint.supported_format {blueprint : Blueprint} {format : Format}
    (accepted : blueprint.format = .ok format) : format.Supported := by
  unfold Blueprint.format at accepted
  cases rated : Format.withRate {} blueprint.rate with
  | error cause => simp [rated, bind, Except.bind] at accepted
  | ok first =>
    cases fed : first.withChannels blueprint.inputChannels blueprint.outputChannels with
    | error cause => simp [rated, fed, bind, Except.bind] at accepted
    | ok second =>
      simp only [rated, fed, bind, Except.bind] at accepted
      have start : Format.Supported {} := by decide
      exact Format.supported_withReverseChannels
        (Format.supported_withChannels (Format.supported_withRate start rated) fed) accepted

namespace Engine

/-- Allocates the storage and prepares the effects for the format at hand. -/
def restart : Act Engine Unit := fun engine =>
  let cleared :=
    { engine with
      capturing := .ofFormat engine.format
      rendering := .ofFormat engine.format
      delay := engine.delay.forget }
  match cleared.rack.prepareEach engine.format EffectKind.all with
  | (none, rack) =>
    { result := .ok (), state := { cleared with rack },
      notices := [.started engine.id engine.format] }
  | (some (kind, fault), rack) =>
    { result := .error fault, state := { cleared with rack },
      notices := [.startFailed engine.id kind fault] }

/-- Changes the format, when the new one is supported, and starts anew. -/
def reconfigure (change : Format → Except FormatError Format) : Act Engine Unit := fun engine =>
  match change engine.format with
  | .error cause =>
    { result := .error .badParameter, state := engine, notices := [.formatRejected cause] }
  | .ok format => restart { engine with format }

/-- Sets the sample rate. -/
def setRate (hz : UInt32) : Act Engine Unit := reconfigure (·.withRate hz)

/-- Sets the channel counts of the microphone stream. -/
def setChannels (input output : Nat) : Act Engine Unit :=
  reconfigure (·.withChannels input output)

/-- Sets the channel count of the stream to the loudspeaker. -/
def setReverseChannels (channels : Nat) : Act Engine Unit :=
  reconfigure (·.withReverseChannels channels)

/-- Builds and starts an engine; the notices are those of the new engine. -/
def create (blueprint : Blueprint) : Except Fault Engine × List Notice :=
  match blueprint.format with
  | .error cause => (.error .badParameter, [.formatRejected cause])
  | .ok format =>
    let started := restart (blank blueprint.id format)
    match started.result with
    | .error fault => (.error fault, started.notices)
    | .ok () => (.ok started.state, started.notices ++ [.created blueprint.id])

/-- Whether the other echo effect is on. -/
def excludes (rack : Rack) : EffectKind → Bool
  | .echoCanceller => rack.mobileEchoControl.enabled
  | .mobileEchoControl => rack.echoCanceller.enabled
  | _ => false

/-- Switches an effect on or off. -/
def enable (kind : EffectKind) (enabled : Bool) : Act Engine Unit := fun engine =>
  let switched := engine.rack.switch enabled kind
  if enabled ∧ excludes engine.rack kind then
    { result := .error .badParameter, state := engine,
      notices := [.echoEffectsExclude engine.id kind] }
  else if enabled ∧ !engine.rack.isEnabled kind then
    match switched.prepare engine.format kind with
    | .ok rack =>
      { result := .ok (), state := { engine with rack },
        notices := [.switched engine.id kind enabled] }
    | .error fault =>
      { result := .error fault, state := { engine with rack := switched.switch false kind },
        notices := [.enableFailed engine.id kind fault] }
  else
    { result := .ok (), state := { engine with rack := switched },
      notices := [.switched engine.id kind enabled] }

/-- Hands a value to the effect it is for. -/
def adjust (setting : Setting) : Act Engine Unit := fun engine =>
  match engine.rack.adjust setting with
  | .ok rack => { result := .ok (), state := { engine with rack } }
  | .error fault => { result := .error fault, state := engine }

/-- Reports the stream delay for the next captured frame. -/
def reportDelay (ms : Int) : Act Engine Unit := fun engine =>
  let reported := { engine with delay := engine.delay.report ms }
  match StreamDelay.reportFault ms with
  | none => { result := .ok (), state := reported }
  | some .parameterClamped =>
    { result := .error .parameterClamped, state := reported,
      notices := [.delayClamped engine.id ms] }
  | some fault => { result := .error fault, state := reported }

/-- Changes the identifier. -/
def changeId (id : Int) : Act Engine Unit := fun engine =>
  { result := .ok (), state := { engine with id }, notices := [.idChanged engine.id id] }

/-- Reads the level of the captured stream since it was last read. -/
def takeCapturedLevel : Act Engine Nat := fun engine =>
  let (result, levelMeter) := engine.rack.levelMeter.takeCaptured
  { result, state := { engine with rack := { engine.rack with levelMeter } } }

/-- Reads the level of the stream to the loudspeaker since it was last read. -/
def takeRenderedLevel : Act Engine Nat := fun engine =>
  let (result, levelMeter) := engine.rack.levelMeter.takeRendered
  { result, state := { engine with rack := { engine.rack with levelMeter } } }

/-- Begins a recording with a sink, in place of one that is going on. -/
def record (sink : Trace.Sink) : Act Engine Unit := fun engine =>
  recording (Trace.Recorder.start sink engine.format.rate.hz) engine

/-- Begins a recording with a file, in place of a recording that is going on. -/
def recordFile (path : String) (opened : Except String Trace.Sink) : Act Engine Unit :=
  fun engine => recording (Trace.Recorder.startFile path opened engine.format.rate.hz) engine

/-- Ends a recording that is going on. -/
def stopRecording : Act Engine Unit := recording Trace.Recorder.stop

/-- The end of an engine: a recording that is going on ends as well. -/
def close : Act Engine Unit := fun engine =>
  (stopRecording.onFault (.closeFailed engine.id)) engine

end Engine

end VoiceEngine
