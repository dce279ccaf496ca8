import VoiceEngine.Proofs.Frames
import VoiceEngine.Proofs.History
import VoiceEngine.Proofs.Lanes
import VoiceEngine.Proofs.Shown

/-!
# A wide and a narrow engine in step

A wide engine takes frames of two channels from the microphone, a narrow engine frames of one. They
are in step when they work at the same rate, stream the same to the loudspeaker, have the same delay
reported, and agree on one lane of the captured stream, and when their racks are related in a way
that everything that is done with racks keeps.

What that relation is depends on what is to be shown: it is equality when two channels are mixed
down to one, and equality up to the memories of the other channel when both channels leave. Either
way, two engines in step answer every call alike and stay in step, once the captured frames they are
given agree on the lane.
-/

namespace VoiceEngine

/-- The format with two channels from the microphone. -/
def Format.widened (outputs : Nat) (format : Format) : Format :=
  { format with inputChannels := 2, outputChannels := outputs }

/-- The blueprint with two channels from the microphone is accepted when the one with a single
channel is, and has the wider format. -/
theorem Blueprint.format_widened (id other : Int) (rate : UInt32) {outputs : Nat}
    (reverseChannels : Nat) (positive : 0 < outputs) (few : outputs ≤ maxChannels) :
    Blueprint.format { id, rate, inputChannels := 2, outputChannels := outputs, reverseChannels } =
      (Blueprint.format { id := other, rate, reverseChannels }).map (Format.widened outputs) := by
  have ordered : ¬ 2 < outputs := Nat.not_lt.mpr few
  have passes : Format.checkChannels outputs = .ok () :=
    Format.checkChannels_eq_ok_iff.mpr ⟨positive, few⟩
  simp only [Blueprint.format, Format.withRate, Format.withChannels, Format.withReverseChannels]
  cases SampleRate.ofHz? rate with
  | error cause => rfl
  | ok rate =>
    simp only [bind, Except.bind, if_neg ordered, passes]
    cases Format.checkChannels reverseChannels with
    | error cause => rfl
    | ok passed => rfl

/-- A blueprint that mentions no channels from the microphone asks for one. -/
theorem Blueprint.single_format {id : Int} {rate : UInt32} {reverseChannels : Nat} {format : Format}
    (accepted : Blueprint.format { id, rate, reverseChannels } = .ok format) :
    format.inputChannels = 1 ∧ format.outputChannels = 1 := by
  simp only [Blueprint.format, Format.withRate, Format.withChannels,
    Format.withReverseChannels] at accepted
  cases found : SampleRate.ofHz? rate with
  | error cause =>
    rw [found] at accepted
    cases accepted
  | ok known =>
    simp only [found, bind, Except.bind] at accepted
    cases passed : Format.checkChannels reverseChannels with
    | error cause =>
      rw [passed] at accepted
      cases accepted
    | ok checked =>
      rw [passed] at accepted
      cases accepted
      exact ⟨rfl, rfl⟩

/-- A sink that no recording begins with, because it does not take the magic line. -/
def Trace.Sink.Unfit (sink : Sink) : Prop := (sink.writeAll magic).1.isSome

/-- A call that means the same to a wide and to a narrow engine: it hands over no captured frame,
does not ask for the level of the captured stream, does not set its channels and begins no
recording. -/
def Call.Shared : Call → Prop
  | .capture _ | .takeCapturedLevel | .setChannels .. => False
  | .record sink | .recordFile _ (.ok sink) => sink.Unfit
  | _ => True

/-- A relation between the racks of a wide and of a narrow engine that is kept by everything that is
done with racks. -/
structure RackRelation (lane outputs : Nat) where
  Related : Rack → Rack → Prop
  /-- What is asked of the narrow rack when a frame is captured. -/
  Admits : Rack → Prop
  inside : lane < outputs
  few : outputs ≤ maxChannels
  isEnabled {wide narrow : Rack} (known : Related wide narrow) (kind : EffectKind) :
    wide.isEnabled kind = narrow.isEnabled kind
  prepare {wide narrow : Rack} (known : Related wide narrow) (format : Format)
    (single : format.outputChannels = 1) (kind : EffectKind) :
    SameOutcome Related (wide.prepare (format.widened outputs) kind) (narrow.prepare format kind)
  switch {wide narrow : Rack} (known : Related wide narrow) (enabled : Bool) (kind : EffectKind) :
    Related (wide.switch enabled kind) (narrow.switch enabled kind)
  adjust {wide narrow : Rack} (known : Related wide narrow) (setting : Setting) :
    SameOutcome Related (wide.adjust setting) (narrow.adjust setting)
  render {wide narrow : Rack} (known : Related wide narrow) (audio : StreamBuffer)
    (stage : RenderStage) : SameOutcome Related (stage.run wide audio) (stage.run narrow audio)
  capture {wide narrow : Rack} (known : Related wide narrow) (admitted : Admits narrow)
    (delay : StreamDelay) {first second : StreamBuffer} (audio : first.Lane lane second)
    (count : first.channelCount = outputs) (single : second.channelCount = 1)
    (stage : CaptureStage) :
    (stage.run delay wide first).fault = (stage.run delay narrow second).fault ∧
      Related (stage.run delay wide first).effect (stage.run delay narrow second).effect ∧
      (stage.run delay wide first).audio.Lane lane (stage.run delay narrow second).audio ∧
      Admits (stage.run delay narrow second).effect
  takeRendered {wide narrow : Rack} (known : Related wide narrow) :
    wide.levelMeter.takeRendered.1 = narrow.levelMeter.takeRendered.1 ∧
      Related { wide with levelMeter := wide.levelMeter.takeRendered.2 }
        { narrow with levelMeter := narrow.levelMeter.takeRendered.2 }

namespace RackRelation

variable {lane outputs : Nat} (relation : RackRelation lane outputs) {wide narrow : Rack}

/-- Preparing effects in a row ends alike and leaves related racks. -/
theorem prepareEach (known : relation.Related wide narrow) {format : Format}
    (single : format.outputChannels = 1) (kinds : List EffectKind) :
    (Rack.prepareEach (format.widened outputs) kinds wide).1 =
        (Rack.prepareEach format kinds narrow).1 ∧
      relation.Related (Rack.prepareEach (format.widened outputs) kinds wide).2
        (Rack.prepareEach format kinds narrow).2 :=
  Rack.prepareEach_related (fun known kind => relation.prepare known format single kind) known kinds

/-- Stages in a row over a frame to the loudspeaker end alike and leave related racks. -/
theorem renderEach (known : relation.Related wide narrow) (audio : StreamBuffer)
    (stages : List RenderStage) :
    (RenderStage.runEach audio stages wide).1 = (RenderStage.runEach audio stages narrow).1 ∧
      relation.Related (RenderStage.runEach audio stages wide).2
        (RenderStage.runEach audio stages narrow).2 :=
  RenderStage.runEach_related (fun known stage => relation.render known audio stage) known stages

/-- Stages in a row over a captured frame end alike, leave related racks and audio that agrees on
the lane. No stage changes the number of channels in use. -/
theorem captureEach (known : relation.Related wide narrow) (admitted : relation.Admits narrow)
    (delay : StreamDelay) {first second : StreamBuffer} (audio : first.Lane lane second)
    (count : first.channelCount = outputs) (single : second.channelCount = 1)
    (stages : List CaptureStage) :
    (CaptureStage.runEach delay stages wide first).1 =
        (CaptureStage.runEach delay stages narrow second).1 ∧
      relation.Related (CaptureStage.runEach delay stages wide first).2.1
        (CaptureStage.runEach delay stages narrow second).2.1 ∧
      (CaptureStage.runEach delay stages wide first).2.2.Lane lane
        (CaptureStage.runEach delay stages narrow second).2.2 := by
  induction stages generalizing wide narrow first second with
  | nil => exact ⟨rfl, known, audio⟩
  | cons stage stages inductionHypothesis =>
    obtain ⟨fault, left, heard, stillAdmitted⟩ :=
      relation.capture known admitted delay audio count single stage
    have wideCount := (CaptureStage.run_alike delay wide first stage).2.channelCount
    have narrowCount := (CaptureStage.run_alike delay narrow second stage).2.channelCount
    simp only [CaptureStage.runEach]
    rw [fault]
    cases (stage.run delay narrow second).fault with
    | none =>
      exact inductionHypothesis left stillAdmitted heard (wideCount.trans count)
        (narrowCount.trans single)
    | some cause => exact ⟨rfl, left, heard⟩

end RackRelation

/-- An unfit sink is refused, and no recording begins. -/
theorem Trace.Recorder.start_unfit {sink : Sink} (unfit : sink.Unfit) (rate : UInt32) :
    (start sink rate {}).result = .error .file ∧ (start sink rate {}).state = {} := by
  have start_eq : start sink rate = Act.andThen stop fun _ => begin sink rate := rfl
  rw [Sink.Unfit] at unfit
  rw [start_eq]
  simp only [Act.andThen, stop, Act.answer, begin]
  revert unfit
  generalize sink.writeAll magic = offered
  obtain ⟨outcome, written⟩ := offered
  intro unfit
  cases outcome with
  | none => cases unfit
  | some cause => exact ⟨rfl, rfl⟩

namespace Engine

/-- Without a recording a captured frame is refused because it does not match the format, or it is
passed through the stages. -/
theorem capture_of_idle {engine : Engine} (idle : engine.recorder = {}) (frame : Frame) :
    engine.capture frame =
      match engine.frameFault engine.format.inputChannels frame with
      | some fault => ({ result := .error fault, state := engine }, frame)
      | none => engine.process frame := by
  obtain ⟨id, format, delay, capturing, rendering, rack, recorder⟩ := engine
  cases idle
  rfl

/-- Without a recording a frame to the loudspeaker is refused because it does not match the format,
or the stages see it. -/
theorem render_of_idle {engine : Engine} (idle : engine.recorder = {}) (frame : Frame) :
    render frame engine =
      match engine.frameFault engine.format.reverseChannels frame with
      | some fault => { result := .error fault, state := engine }
      | none => engine.observe frame := by
  obtain ⟨id, format, delay, capturing, rendering, rack, recorder⟩ := engine
  cases idle
  rfl

/-- An engine that does not record refuses an unfit sink and is left as it was. -/
theorem record_unfit {engine : Engine} (idle : engine.recorder = {}) {sink : Trace.Sink}
    (unfit : sink.Unfit) :
    (record sink engine).result = .error .file ∧ (record sink engine).state = engine := by
  obtain ⟨id, format, delay, capturing, rendering, rack, recorder⟩ := engine
  cases idle
  obtain ⟨refused, left⟩ := Trace.Recorder.start_unfit unfit format.rate.hz
  simp only [record, recording, Act.within, refused, left]
  exact ⟨trivial, trivial⟩

/-- An engine that does not record refuses a file that cannot be opened or is an unfit sink, and is
left as it was. -/
theorem recordFile_unfit {engine : Engine} (idle : engine.recorder = {}) (path : String)
    {opened : Except String Trace.Sink} (unfit : ∀ sink, opened = .ok sink → sink.Unfit) :
    (recordFile path opened engine).result = .error .file ∧
      (recordFile path opened engine).state = engine := by
  obtain ⟨id, format, delay, capturing, rendering, rack, recorder⟩ := engine
  cases idle
  cases opened with
  | error cause => exact ⟨rfl, rfl⟩
  | ok sink =>
    obtain ⟨refused, left⟩ := Trace.Recorder.start_unfit (unfit sink rfl) format.rate.hz
    have startFile_eq : Trace.Recorder.startFile path (.ok sink) format.rate.hz =
        Act.andThen Trace.Recorder.stop fun _ =>
          Act.andThen (Act.notify (.recordingOpened path)) fun _ =>
            Trace.Recorder.start sink format.rate.hz := rfl
    simp only [recordFile, recording, Act.within, startFile_eq, Act.andThen, Trace.Recorder.stop,
      Act.answer, Act.notify, refused, left]
    exact ⟨trivial, trivial⟩

/-- Frames of the same rate and length that both have the expected number of channels, or both do
not, are refused alike by engines of the same rate. -/
theorem frameFault_congr {first second : Engine} {frame given : Frame} {channels others : Nat}
    (rate : first.format.rate = second.format.rate) (sameRate : frame.rate = given.rate)
    (length : frame.length = given.length)
    (count : frame.channelCount = channels ↔ given.channelCount = others) :
    first.frameFault channels frame = second.frameFault others given := by
  unfold frameFault Format.frameLength
  rw [rate, sameRate, length]
  by_cases expected : given.channelCount = others
  · rw [if_neg (not_not_intro (count.mpr expected)), if_neg (not_not_intro expected)]
  · rw [if_pos (mt count.mp expected), if_pos expected]

/-- A frame for which no stage refused holds the channels that the storage was left with. -/
theorem process_final {engine : Engine} {frame : Frame}
    (done : (engine.process frame).1.result = .ok ()) :
    (engine.process frame).2 =
      (engine.process frame).1.state.capturing.store (engine.frameInWork frame) := by
  simp only [process] at done ⊢
  split at done
  case h_1 => cases done
  case h_2 outcome => rfl

/-- The storage is left with as many channels in use as were loaded. -/
theorem channelCount_process (engine : Engine) (frame : Frame) :
    (engine.process frame).1.state.capturing.channelCount =
      (engine.loadCaptured frame).channelCount := by
  have alike := (CaptureStage.runEach_alike engine.delay engine.rack (engine.loadCaptured frame)
    CaptureStage.order).2.channelCount
  simp only [process]
  split
  case h_1 outcome =>
    rw [outcome] at alike
    exact alike
  case h_2 outcome =>
    rw [outcome] at alike
    exact (StreamBuffer.channelCount_mergeChannels _ _).trans alike

variable {lane outputs : Nat} {relation : RackRelation lane outputs}

/-- A wide and a narrow engine are in step. -/
structure InStep (relation : RackRelation lane outputs) (wide narrow : Engine) : Prop where
  format : wide.format = narrow.format.widened outputs
  inputs : narrow.format.inputChannels = 1
  single : narrow.format.outputChannels = 1
  delay : wide.delay = narrow.delay
  capturing : wide.capturing.Lane lane narrow.capturing
  rendering : wide.rendering = narrow.rendering
  rack : relation.Related wide.rack narrow.rack
  idle : wide.recorder = {}
  alsoIdle : narrow.recorder = {}

/-- Two outcomes answer alike and leave engines in step. -/
structure EndsInStep {Answer : Type} (relation : RackRelation lane outputs)
    (first second : Outcome Engine Answer) : Prop where
  result : first.result = second.result
  state : InStep relation first.state second.state

/-- An answer that is put differently is still the same answer. -/
theorem EndsInStep.replying {Answer : Type} {first second : Outcome Engine Answer}
    (same : EndsInStep relation first second) (reply : Answer → Reply) :
    EndsInStep relation (Engine.replying reply first) (Engine.replying reply second) :=
  ⟨congrArg (Except.map reply) same.result, same.state⟩

namespace InStep

variable {wide narrow : Engine}

/-- Both work at the same rate. -/
theorem rate (known : InStep relation wide narrow) : wide.format.rate = narrow.format.rate := by
  rw [known.format]
  rfl

/-- Two channels arrive at the wide engine. -/
theorem wideInputs (known : InStep relation wide narrow) : wide.format.inputChannels = 2 := by
  rw [known.format]
  rfl

/-- As many channels leave the wide engine as the relation says. -/
theorem wideOutputs (known : InStep relation wide narrow) :
    wide.format.outputChannels = outputs := by
  rw [known.format]
  rfl

/-- Engines that were never started are in step. -/
theorem of_blank {format : Format} (fresh : relation.Related {} {})
    (inputs : format.inputChannels = 1) (single : format.outputChannels = 1) (id other : Int) :
    InStep relation (blank id (format.widened outputs)) (blank other format) where
  format := rfl
  inputs
  single
  delay := rfl
  capturing :=
    StreamBuffer.lane_ofFormat rfl (Nat.lt_of_lt_of_le relation.inside relation.few)
  rendering := rfl
  rack := fresh
  idle := rfl
  alsoIdle := rfl

/-- Engines created for the same rate and the same stream to the loudspeaker are in step. -/
theorem of_create {id other : Int} {rate : UInt32} {reverseChannels : Nat}
    (fresh : relation.Related {} {})
    (made : (create
      { id, rate, inputChannels := 2, outputChannels := outputs, reverseChannels }).1 = .ok wide)
    (alsoMade : (create { id := other, rate, reverseChannels }).1 = .ok narrow) :
    InStep relation wide narrow := by
  have positive : 0 < outputs := Nat.zero_lt_of_lt relation.inside
  have accepted := Blueprint.format_widened id other rate reverseChannels positive relation.few
  simp only [create, accepted] at made
  simp only [create] at alsoMade
  cases found : Blueprint.format { id := other, rate, reverseChannels } with
  | error cause =>
    rw [found] at alsoMade
    cases alsoMade
  | ok format =>
    rw [found] at made alsoMade
    cases made
    cases alsoMade
    obtain ⟨inputs, single⟩ := Blueprint.single_format found
    exact of_blank fresh inputs single id other

/-- Starting anew. -/
theorem restart (known : InStep relation wide narrow) :
    EndsInStep relation (restart wide) (restart narrow) := by
  obtain ⟨outcome, rack⟩ := relation.prepareEach known.rack known.single EffectKind.all
  have inside : lane < maxChannels := Nat.lt_of_lt_of_le relation.inside relation.few
  constructor
  · rw [restart_result, restart_result, known.format, outcome]
  · rw [restart_state, restart_state, known.format]
    exact
      { known with
        format := rfl
        delay := congrArg StreamDelay.forget known.delay
        capturing := StreamBuffer.lane_ofFormat rfl inside
        rendering := rfl
        rack }

/-- Changing the rate or the number of channels to the loudspeaker. -/
theorem reconfigure (known : InStep relation wide narrow)
    (change : Format → Except FormatError Format)
    (widened : ∀ format : Format,
      change (format.widened outputs) = (change format).map (Format.widened outputs))
    (keeps : ∀ format next : Format, change format = .ok next →
      next.inputChannels = format.inputChannels ∧ next.outputChannels = format.outputChannels) :
    EndsInStep relation (reconfigure change wide) (reconfigure change narrow) := by
  simp only [Engine.reconfigure, known.format, widened]
  cases changed : change narrow.format with
  | error cause => exact ⟨rfl, known⟩
  | ok format =>
    obtain ⟨inputs, single⟩ := keeps narrow.format format changed
    exact restart
      { known with
        format := rfl
        inputs := inputs.trans known.inputs
        single := single.trans known.single }

/-- Setting the sample rate. -/
theorem setRate (known : InStep relation wide narrow) (hz : UInt32) :
    EndsInStep relation (setRate hz wide) (setRate hz narrow) := by
  refine known.reconfigure (·.withRate hz) ?_ ?_
  · intro format
    simp only [Format.withRate]
    cases SampleRate.ofHz? hz with
    | error cause => rfl
    | ok rate => rfl
  · intro format next changed
    simp only [Format.withRate] at changed
    split at changed
    · cases changed
      exact ⟨rfl, rfl⟩
    · cases changed

/-- Setting the number of channels to the loudspeaker. -/
theorem setReverseChannels (known : InStep relation wide narrow) (channels : Nat) :
    EndsInStep relation (setReverseChannels channels wide)
      (setReverseChannels channels narrow) := by
  refine known.reconfigure (·.withReverseChannels channels) ?_ ?_
  · intro format
    simp only [Format.withReverseChannels]
    cases Format.checkChannels channels with
    | error cause => rfl
    | ok passed => rfl
  · intro format next changed
    simp only [Format.withReverseChannels] at changed
    split at changed
    · cases changed
      exact ⟨rfl, rfl⟩
    · cases changed

/-- Switching an effect. -/
theorem enable (known : InStep relation wide narrow) (kind : EffectKind) (enabled : Bool) :
    EndsInStep relation (enable kind enabled wide) (enable kind enabled narrow) := by
  have excluded : excludes wide.rack kind = excludes narrow.rack kind := by
    cases kind with
    | echoCanceller => exact relation.isEnabled known.rack .mobileEchoControl
    | mobileEchoControl => exact relation.isEnabled known.rack .echoCanceller
    | _ => rfl
  have switched := relation.switch known.rack enabled kind
  simp only [Engine.enable, excluded, relation.isEnabled known.rack kind, known.format]
  split
  · exact ⟨rfl, known⟩
  · split
    · rcases (relation.prepare switched narrow.format known.single kind).cases with
        ⟨fault, failed, alsoFailed⟩ | ⟨one, other, done, alsoDone, rack⟩
      · rw [failed, alsoFailed]
        exact ⟨rfl, { known with
          format := rfl
          rack := relation.switch switched false kind }⟩
      · rw [done, alsoDone]
        exact ⟨rfl, { known with format := rfl, rack }⟩
    · exact ⟨rfl, { known with format := rfl, rack := switched }⟩

/-- Handing a value to an effect. -/
theorem adjust (known : InStep relation wide narrow) (setting : Setting) :
    EndsInStep relation (adjust setting wide) (adjust setting narrow) := by
  simp only [Engine.adjust]
  rcases (relation.adjust known.rack setting).cases with
    ⟨fault, failed, alsoFailed⟩ | ⟨one, other, done, alsoDone, rack⟩
  · rw [failed, alsoFailed]
    exact ⟨rfl, known⟩
  · rw [done, alsoDone]
    exact ⟨rfl, { known with rack }⟩

/-- Reporting a delay. -/
theorem reportDelay (known : InStep relation wide narrow) (ms : Int) :
    EndsInStep relation (reportDelay ms wide) (reportDelay ms narrow) := by
  have reported : InStep relation { wide with delay := wide.delay.report ms }
      { narrow with delay := narrow.delay.report ms } :=
    { known with delay := congrArg (StreamDelay.report · ms) known.delay }
  simp only [Engine.reportDelay]
  split
  · exact ⟨rfl, reported⟩
  · exact ⟨rfl, reported⟩
  · exact ⟨rfl, reported⟩

/-- Letting the stages see a frame to the loudspeaker. -/
theorem observe (known : InStep relation wide narrow) (frame : Frame) :
    EndsInStep relation (observe wide frame) (observe narrow frame) := by
  have stages := relation.renderEach known.rack
    ((narrow.rendering.load frame).splitChannels frame.channelCount) RenderStage.order
  simp only [Engine.observe, known.rendering]
  revert stages
  generalize RenderStage.runEach ((narrow.rendering.load frame).splitChannels frame.channelCount)
    RenderStage.order wide.rack = one
  generalize RenderStage.runEach ((narrow.rendering.load frame).splitChannels frame.channelCount)
    RenderStage.order narrow.rack = other
  obtain ⟨outcome, rack⟩ := one
  obtain ⟨alsoOutcome, alsoRack⟩ := other
  rintro ⟨rfl, left⟩
  cases outcome with
  | none =>
    exact ⟨rfl, { known with
      delay := congrArg StreamDelay.forget known.delay, rendering := rfl, rack := left }⟩
  | some reason => exact ⟨rfl, { known with rendering := rfl, rack := left }⟩

/-- Taking in a frame to the loudspeaker. -/
theorem render (known : InStep relation wide narrow) (frame : Frame) :
    EndsInStep relation (render frame wide) (render frame narrow) := by
  have mismatch : wide.frameFault wide.format.reverseChannels frame =
      narrow.frameFault narrow.format.reverseChannels frame := by
    rw [known.format]
    exact frameFault_congr known.rate rfl rfl Iff.rfl
  rw [render_of_idle known.idle, render_of_idle known.alsoIdle, mismatch]
  split
  · exact ⟨rfl, known⟩
  · exact known.observe frame

/-- Reading the level of the stream to the loudspeaker. -/
theorem takeRenderedLevel (known : InStep relation wide narrow) :
    EndsInStep relation (takeRenderedLevel wide) (takeRenderedLevel narrow) := by
  obtain ⟨level, rack⟩ := relation.takeRendered known.rack
  exact ⟨level, { known with rack }⟩

/-- Ending a recording when there is none. -/
theorem stopRecording (known : InStep relation wide narrow) :
    EndsInStep relation (stopRecording wide) (stopRecording narrow) := by
  simp only [Engine.stopRecording, recording, Act.within, known.idle, known.alsoIdle]
  exact ⟨rfl, { known with idle := rfl, alsoIdle := rfl }⟩

/-- Trying to record to a sink that is unfit. -/
theorem record (known : InStep relation wide narrow) {sink : Trace.Sink} (unfit : sink.Unfit) :
    EndsInStep relation (record sink wide) (record sink narrow) := by
  obtain ⟨refused, same⟩ := record_unfit known.idle unfit
  obtain ⟨alsoRefused, alsoSame⟩ := record_unfit known.alsoIdle unfit
  exact ⟨refused.trans alsoRefused.symm, by rw [same, alsoSame]; exact known⟩

/-- Trying to record to a file that cannot be opened or is unfit. -/
theorem recordFile (known : InStep relation wide narrow) (path : String)
    {opened : Except String Trace.Sink} (unfit : ∀ sink, opened = .ok sink → sink.Unfit) :
    EndsInStep relation (recordFile path opened wide) (recordFile path opened narrow) := by
  obtain ⟨refused, same⟩ := recordFile_unfit known.idle path unfit
  obtain ⟨alsoRefused, alsoSame⟩ := recordFile_unfit known.alsoIdle path unfit
  exact ⟨refused.trans alsoRefused.symm, by rw [same, alsoSame]; exact known⟩

/-- Passing captured frames through the stages that agree on the lane when they are loaded. -/
theorem process (known : InStep relation wide narrow) (admitted : relation.Admits narrow.rack)
    {frame given : Frame} (audio : (wide.loadCaptured frame).Lane lane (narrow.loadCaptured given))
    (count : (wide.loadCaptured frame).channelCount = outputs)
    (single : (narrow.loadCaptured given).channelCount = 1) :
    EndsInStep relation (wide.process frame).1 (narrow.process given).1 := by
  have stages := relation.captureEach known.rack admitted narrow.delay audio count single
    CaptureStage.order
  simp only [Engine.process, known.delay, known.wideOutputs, known.single]
  revert stages
  generalize CaptureStage.runEach narrow.delay CaptureStage.order wide.rack
    (wide.loadCaptured frame) = one
  generalize CaptureStage.runEach narrow.delay CaptureStage.order narrow.rack
    (narrow.loadCaptured given) = other
  obtain ⟨outcome, rack, capturing⟩ := one
  obtain ⟨alsoOutcome, alsoRack, alsoCapturing⟩ := other
  rintro ⟨rfl, left, heard⟩
  cases outcome with
  | none =>
    exact ⟨rfl, { known with
      delay := rfl, rack := left, capturing := heard.mergeChannels relation.inside }⟩
  | some reason => exact ⟨rfl, { known with delay := rfl, rack := left, capturing := heard }⟩

/-- Performing a call that means the same to both. -/
theorem perform_shared (known : InStep relation wide narrow) {call : Call} (shared : call.Shared) :
    EndsInStep relation (wide.perform call) (narrow.perform call) := by
  cases call with
  | restart => exact known.restart.replying _
  | setRate hz => exact (known.setRate hz).replying _
  | setReverseChannels channels => exact (known.setReverseChannels channels).replying _
  | enable kind enabled => exact (known.enable kind enabled).replying _
  | adjust setting => exact (known.adjust setting).replying _
  | reportDelay ms => exact (known.reportDelay ms).replying _
  | changeId id => exact ⟨rfl, { known with }⟩
  | render frame => exact (known.render frame).replying _
  | takeRenderedLevel => exact known.takeRenderedLevel.replying _
  | stopRecording => exact known.stopRecording.replying _
  | setChannels input output => exact shared.elim
  | capture frame => exact shared.elim
  | takeCapturedLevel => exact shared.elim
  | record sink => exact (known.record shared).replying _
  | recordFile path opened =>
    refine (known.recordFile path ?_).replying _
    rintro sink rfl
    exact shared

end InStep

end Engine

end VoiceEngine
