import VoiceEngine.Engine.State

/-!
# Processing frames

A frame has to match the format in rate, channel count and length, in this order, and is
recorded before anything else happens to it. A captured frame is then mixed down if fewer
channels leave than arrive, split into bands if the rate asks for it, passed through the
stages and put together again in place. A frame to the loudspeaker is only looked at; when
all stages have seen it, the stream delay has to be reported again.

When a stage fails, what earlier stages did to the effects and to the working storage
stays, and a frame that was to be mixed down already has its new channel count.
-/

namespace VoiceEngine.Engine

/-- Why a frame does not match the format, if it does not. -/
def frameFault (engine : Engine) (channels : Nat) (frame : Frame) : Option Fault :=
  if frame.rate ≠ engine.format.rate.hz then some .badSampleRate
  else if frame.channelCount ≠ channels then some .badChannelCount
  else if frame.length ≠ engine.format.frameLength then some .badDataLength
  else none

/-- The captured stream with a frame loaded, mixed down and split into bands. -/
def loadCaptured (engine : Engine) (frame : Frame) : StreamBuffer :=
  let format := engine.format
  let loaded := engine.capturing.load frame
  let mixed := if format.mixesDown then loaded.mixDown format.outputChannels else loaded
  mixed.splitChannels format.inputChannels

/-- The frame as it is while it is processed: with the channels that will leave. -/
def frameInWork (engine : Engine) (frame : Frame) : Frame :=
  if engine.format.mixesDown then frame.withChannelCount engine.format.outputChannels else frame

/-- Passes a frame that matches the format through the stages. The answer is the frame
afterwards. -/
def process (engine : Engine) (frame : Frame) : Outcome Engine Unit × Frame :=
  let audio := engine.loadCaptured frame
  let inWork := engine.frameInWork frame
  match CaptureStage.runEach engine.delay CaptureStage.order engine.rack audio with
  | (some (stage, fault), rack, capturing) =>
    ({ result := .error fault, state := { engine with rack, capturing },
       notices := [.captureStageFailed engine.id stage fault] }, inWork)
  | (none, rack, audio) =>
    let capturing := audio.mergeChannels engine.format.outputChannels
    ({ result := .ok (), state := { engine with rack, capturing },
       notices := [.captured engine.id] }, capturing.store inWork)

/-- Processes a frame from the microphone in place: how the call ended, and the frame
afterwards. A frame that does not match or cannot be recorded is left as it is. -/
def capture (engine : Engine) (frame : Frame) : Outcome Engine Unit × Frame :=
  match engine.frameFault engine.format.inputChannels frame with
  | some fault => ({ result := .error fault, state := engine }, frame)
  | none =>
    let recorded := recording (Trace.Recorder.recordFrame .captured frame) engine
    match recorded.result with
    | .error _ => (recorded, frame)
    | .ok () =>
      let (processed, final) := recorded.state.process frame
      ({ processed with notices := recorded.notices ++ processed.notices }, final)

/-- Lets the stages see a frame that matches the format. -/
def observe (engine : Engine) (frame : Frame) : Outcome Engine Unit :=
  let loaded := engine.rendering.load frame
  let rendering := loaded.splitChannels frame.channelCount
  match RenderStage.runEach rendering RenderStage.order engine.rack with
  | (some (stage, fault), rack) =>
    { result := .error fault, state := { engine with rack, rendering },
      notices := [.renderStageFailed engine.id stage fault] }
  | (none, rack) =>
    { result := .ok (), state := { engine with rack, rendering, delay := engine.delay.forget },
      notices := [.rendered engine.id] }

/-- Takes in a frame on its way to the loudspeaker. -/
def render (frame : Frame) : Act Engine Unit := fun engine =>
  match engine.frameFault engine.format.reverseChannels frame with
  | some fault => { result := .error fault, state := engine }
  | none =>
    let recorded := recording (Trace.Recorder.recordFrame .rendered frame) engine
    match recorded.result with
    | .error _ => recorded
    | .ok () =>
      let observed := recorded.state.observe frame
      { observed with notices := recorded.notices ++ observed.notices }

end VoiceEngine.Engine
