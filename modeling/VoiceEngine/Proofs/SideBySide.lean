import VoiceEngine.Proofs.PerChannel
import VoiceEngine.Proofs.Stored

/-!
# Two channels side by side

An engine that takes two channels and lets both leave is two engines for one channel each, as long
as none of its effects mixes the channels when a frame is captured. Two effects could: mobile echo
control draws the comfort noise of all channels from one generator, and a gain control that adapts
measures all channels together. What else is measured over all channels, for the voice detector,
the level and the metrics, is only reported.

The engine for two channels is in step with an engine for one when every effect follows the lane
of that channel and the storage agrees on it. A captured frame, loaded whole or one channel of it
alone, leaves them in step, and the frame that leaves the one engine holds the frame that leaves
the other.
-/

namespace VoiceEngine

/-- Every effect of a rack for two channels follows a lane of a rack for one. -/
structure Rack.Follows (lane : Nat) (wide narrow : Rack) : Prop where
  echoCanceller : AlongLane lane wide.echoCanceller narrow.echoCanceller
  mobileEchoControl : AlongLane lane wide.mobileEchoControl narrow.mobileEchoControl
  gainControl : AlongLane lane wide.gainControl narrow.gainControl
  highPass : AlongLane lane wide.highPass narrow.highPass
  levelMeter : AlongLane lane wide.levelMeter narrow.levelMeter
  noiseSuppressor : AlongLane lane wide.noiseSuppressor narrow.noiseSuppressor
  voiceDetector : AlongLane lane wide.voiceDetector narrow.voiceDetector

/-- Every effect of the rack that is on works on each channel by itself: no comfort noise is drawn
and the gain is fixed. -/
structure Rack.Separable (rack : Rack) : Prop where
  quiet : rack.mobileEchoControl.enabled = true → rack.mobileEchoControl.comfortNoise = false
  fixed : rack.gainControl.enabled = true → rack.gainControl.mode = .fixedDigital

namespace Rack.Follows

variable {lane : Nat} {wide narrow : Rack}

/-- The racks of new engines. -/
theorem fresh : Follows lane {} {} := by
  constructor <;> exact ⟨rfl, rfl, rfl⟩

/-- The same effects are on. -/
theorem isEnabled (known : Follows lane wide narrow) (kind : EffectKind) :
    wide.isEnabled kind = narrow.isEnabled kind := by
  cases kind with
  | echoCanceller => exact (congrArg EchoCanceller.enabled known.echoCanceller.shared :)
  | mobileEchoControl =>
    exact (congrArg MobileEchoControl.enabled known.mobileEchoControl.shared :)
  | gainControl => exact (congrArg GainControl.enabled known.gainControl.shared :)
  | highPass => exact (congrArg HighPass.enabled known.highPass.shared :)
  | levelMeter => exact (congrArg LevelMeter.enabled known.levelMeter.shared :)
  | noiseSuppressor => exact (congrArg NoiseSuppressor.enabled known.noiseSuppressor.shared :)
  | voiceDetector => exact (congrArg VoiceDetector.enabled known.voiceDetector.shared :)

/-- Preparing an effect. -/
theorem prepare (known : Follows lane wide narrow) (inside : lane < 2) (format : Format)
    (single : format.outputChannels = 1) (kind : EffectKind) :
    SameOutcome (Follows lane) (wide.prepare (format.widened 2) kind)
      (narrow.prepare format kind) := by
  cases kind with
  | echoCanceller =>
    exact { known with
      echoCanceller := EchoCanceller.alongLane_prepare inside single known.echoCanceller }
  | mobileEchoControl =>
    have same := MobileEchoControl.alongLane_prepare inside single known.mobileEchoControl
    rw [prepare_mobileEchoControl, prepare_mobileEchoControl]
    exact same.map fun _ _ prepared => { known with mobileEchoControl := prepared }
  | gainControl =>
    exact { known with gainControl := GainControl.alongLane_prepare known.gainControl }
  | highPass =>
    exact { known with highPass := HighPass.alongLane_prepare inside single known.highPass }
  | levelMeter =>
    exact { known with levelMeter := LevelMeter.alongLane_prepare known.levelMeter }
  | noiseSuppressor =>
    exact { known with
      noiseSuppressor := NoiseSuppressor.alongLane_prepare inside single known.noiseSuppressor }
  | voiceDetector =>
    exact { known with voiceDetector := VoiceDetector.alongLane_prepare known.voiceDetector }

/-- Switching an effect. -/
theorem switch (known : Follows lane wide narrow) (enabled : Bool) (kind : EffectKind) :
    Follows lane (wide.switch enabled kind) (narrow.switch enabled kind) := by
  cases kind with
  | echoCanceller =>
    exact { known with
      echoCanceller := known.echoCanceller.change ({ · with enabled }) (fun _ => rfl) fun _ => rfl }
  | mobileEchoControl =>
    exact { known with
      mobileEchoControl :=
        known.mobileEchoControl.change ({ · with enabled }) (fun _ => rfl) fun _ => rfl }
  | gainControl =>
    exact { known with
      gainControl := known.gainControl.change ({ · with enabled }) (fun _ => rfl) fun _ => rfl }
  | highPass =>
    exact { known with
      highPass := known.highPass.change ({ · with enabled }) (fun _ => rfl) fun _ => rfl }
  | levelMeter =>
    exact { known with
      levelMeter := known.levelMeter.change ({ · with enabled }) (fun _ => rfl) fun _ => rfl }
  | noiseSuppressor =>
    exact { known with
      noiseSuppressor :=
        known.noiseSuppressor.change ({ · with enabled }) (fun _ => rfl) fun _ => rfl }
  | voiceDetector =>
    exact { known with
      voiceDetector := known.voiceDetector.change ({ · with enabled }) (fun _ => rfl) fun _ => rfl }

/-- Handing a value to an effect. Both racks accept it or both refuse it, because no setting is
there for one channel. -/
theorem adjust (known : Follows lane wide narrow) (setting : Setting) :
    SameOutcome (Follows lane) (wide.adjust setting) (narrow.adjust setting) := by
  have changes := setting.changesShared
  rw [Rack.adjust_eq, Rack.adjust_eq]
  cases its : setting.tuning with
  | echoCanceller setter =>
    rw [its] at changes
    exact (known.echoCanceller.set changes).map
      fun _ _ along => { known with echoCanceller := along }
  | mobileEchoControl setter =>
    rw [its] at changes
    exact (known.mobileEchoControl.set changes).map
      fun _ _ along => { known with mobileEchoControl := along }
  | gainControl setter =>
    rw [its] at changes
    exact (known.gainControl.set changes).map fun _ _ along => { known with gainControl := along }
  | noiseSuppressor setter =>
    rw [its] at changes
    exact (known.noiseSuppressor.set changes).map
      fun _ _ along => { known with noiseSuppressor := along }
  | voiceDetector setter =>
    rw [its] at changes
    exact (known.voiceDetector.set changes).map
      fun _ _ along => { known with voiceDetector := along }

/-- Letting a stage see a frame to the loudspeaker. -/
theorem render (known : Follows lane wide narrow) (audio : StreamBuffer) (stage : RenderStage) :
    SameOutcome (Follows lane) (stage.run wide audio) (stage.run narrow audio) := by
  cases stage with
  | echoCanceller =>
    exact (EchoCanceller.alongLane_render known.echoCanceller audio).map
      fun _ _ heard => { known with echoCanceller := heard }
  | mobileEchoControl =>
    exact (MobileEchoControl.alongLane_render known.mobileEchoControl audio).map
      fun _ _ heard => { known with mobileEchoControl := heard }
  | gainControl =>
    exact { known with
      gainControl := known.gainControl.of_same (GainControl.settings_render _ audio)
        (GainControl.settings_render _ audio) rfl rfl }
  | levelMeter =>
    exact { known with levelMeter := LevelMeter.alongLane_render known.levelMeter audio }

/-- Reading the level of the stream to the loudspeaker. -/
theorem takeRendered (known : Follows lane wide narrow) :
    wide.levelMeter.takeRendered.1 = narrow.levelMeter.takeRendered.1 ∧
      Follows lane { wide with levelMeter := wide.levelMeter.takeRendered.2 }
        { narrow with levelMeter := narrow.levelMeter.takeRendered.2 } := by
  obtain ⟨level, left⟩ := LevelMeter.alongLane_takeRendered known.levelMeter
  exact ⟨level, { known with levelMeter := left }⟩

/-- Passing a captured frame through a stage. What the pass of an effect does on a lane is
known for each effect that keeps memories of channels; the other stages look at settings alone,
which the lanes share, or take the snapshot in both or in neither. -/
theorem capture (known : Follows lane wide narrow) (separable : narrow.Separable)
    (inside : lane < 2) (delay : StreamDelay) {first second : StreamBuffer}
    (audio : first.Lane lane second) (both : first.channelCount = 2)
    (single : second.channelCount = 1) (stage : CaptureStage) :
    (stage.run delay wide first).fault = (stage.run delay narrow second).fault ∧
      Follows lane (stage.run delay wide first).effect (stage.run delay narrow second).effect ∧
      (stage.run delay wide first).audio.Lane lane (stage.run delay narrow second).audio := by
  cases stage with
  | highPass =>
    have pass := HighPass.capture_lane inside audio both single known.highPass
    exact ⟨pass.fault, { known with highPass := pass.effect }, pass.audio⟩
  | measureGain =>
    have gainControl := known.gainControl.of_same (GainControl.settings_measure _ first)
      (GainControl.settings_measure _ second) rfl rfl
    exact ⟨rfl, { known with gainControl }, audio⟩
  | echoCanceller =>
    have pass := EchoCanceller.capture_lane inside audio both single known.echoCanceller delay
    exact ⟨pass.fault, { known with echoCanceller := pass.effect }, pass.audio⟩
  | snapshot =>
    have control : wide.mobileEchoControl.enabled = narrow.mobileEchoControl.enabled :=
      known.isEnabled .mobileEchoControl
    have suppressor : wide.noiseSuppressor.enabled = narrow.noiseSuppressor.enabled :=
      known.isEnabled .noiseSuppressor
    simp only [CaptureStage.run, control, suppressor]
    split
    · exact ⟨rfl, known, audio.takeSnapshot (by rw [both]; exact inside) single⟩
    · exact ⟨rfl, known, audio⟩
  | noiseSuppressor =>
    have pass := NoiseSuppressor.capture_lane inside audio both single known.noiseSuppressor
    exact ⟨pass.fault, { known with noiseSuppressor := pass.effect }, pass.audio⟩
  | mobileEchoControl =>
    have pass := MobileEchoControl.capture_lane inside audio both single known.mobileEchoControl
      delay separable.quiet
    exact ⟨pass.fault, { known with mobileEchoControl := pass.effect }, pass.audio⟩
  | voiceDetector =>
    have voiceDetector := known.voiceDetector.of_same (VoiceDetector.settings_capture _ first)
      (VoiceDetector.settings_capture _ second) rfl rfl
    exact ⟨rfl, { known with voiceDetector }, audio⟩
  | applyGain =>
    have pass := GainControl.capture_lane inside audio both single known.gainControl
      separable.fixed
    exact ⟨pass.fault, { known with gainControl := pass.effect }, pass.audio⟩
  | levelMeter =>
    have levelMeter := known.levelMeter.of_same (LevelMeter.shared_capture _ first)
      (LevelMeter.shared_capture _ second) rfl rfl
    exact ⟨rfl, { known with levelMeter }, audio⟩

end Rack.Follows

/-- No stage changes the mode of the gain control or whether comfort noise is on. -/
theorem Rack.Separable.capture {rack : Rack} (separable : rack.Separable) (delay : StreamDelay)
    (audio : StreamBuffer) (stage : CaptureStage) :
    (stage.run delay rack audio).effect.Separable := by
  cases stage with
  | measureGain =>
    have settings := GainControl.settings_measure rack.gainControl audio
    refine ⟨separable.quiet, fun on => ?_⟩
    have mode : (rack.gainControl.measure audio).mode = rack.gainControl.mode :=
      (congrArg GainControl.mode settings :)
    have enabled : (rack.gainControl.measure audio).enabled = rack.gainControl.enabled :=
      (congrArg GainControl.enabled settings :)
    exact mode.trans (separable.fixed (enabled.symm.trans on))
  | snapshot =>
    simp only [CaptureStage.run]
    split <;> exact separable
  | mobileEchoControl =>
    have settings := MobileEchoControl.settings_capture rack.mobileEchoControl delay audio
    refine ⟨fun on => ?_, separable.fixed⟩
    have comfortNoise : (rack.mobileEchoControl.capture delay audio).effect.comfortNoise =
        rack.mobileEchoControl.comfortNoise :=
      (congrArg MobileEchoControl.comfortNoise settings :)
    have enabled : (rack.mobileEchoControl.capture delay audio).effect.enabled =
        rack.mobileEchoControl.enabled :=
      (congrArg MobileEchoControl.enabled settings :)
    exact comfortNoise.trans (separable.quiet (enabled.symm.trans on))
  | applyGain =>
    obtain ⟨enabled, mode⟩ := GainControl.mode_capture rack.gainControl audio
    exact ⟨separable.quiet, fun on => mode.trans (separable.fixed (enabled.symm.trans on))⟩
  | _ => exact ⟨separable.quiet, separable.fixed⟩

/-- Racks of an engine with two channels leaving and of an engine with one are in step on a lane
when the one follows the lane of the other. -/
def RackRelation.alongLane {lane : Nat} (inside : lane < 2) : RackRelation lane 2 where
  Related := Rack.Follows lane
  Admits := Rack.Separable
  inside
  few := Nat.le_refl 2
  isEnabled := Rack.Follows.isEnabled
  prepare known format single kind := known.prepare inside format single kind
  switch := Rack.Follows.switch
  adjust := Rack.Follows.adjust
  render := Rack.Follows.render
  capture known separable delay _ _ audio both single stage := by
    obtain ⟨fault, effect, heard⟩ := known.capture separable inside delay audio both single stage
    exact ⟨fault, effect, heard, separable.capture delay _ stage⟩
  takeRendered := Rack.Follows.takeRendered

/-- The rack for one channel is separable when the rack that follows it is. -/
theorem Rack.Follows.separable {lane : Nat} {wide narrow : Rack} (known : Follows lane wide narrow)
    (separable : wide.Separable) : narrow.Separable := by
  have comfortNoise : wide.mobileEchoControl.comfortNoise = narrow.mobileEchoControl.comfortNoise :=
    (congrArg MobileEchoControl.comfortNoise known.mobileEchoControl.shared :)
  have mode : wide.gainControl.mode = narrow.gainControl.mode :=
    (congrArg GainControl.mode known.gainControl.shared :)
  constructor
  · intro on
    exact comfortNoise.symm.trans (separable.quiet ((known.isEnabled .mobileEchoControl).trans on))
  · intro on
    exact mode.symm.trans (separable.fixed ((known.isEnabled .gainControl).trans on))

namespace Frame

/-- The frame with one of its channels alone. -/
def lane (frame : Frame) (index : Nat) : Frame :=
  { frame with channelCount := 1, data := frame.channel index }

/-- A channel alone is the only one. -/
theorem channels_lane (frame : Frame) (index : Nat) :
    (frame.lane index).channels = [frame.channel index] :=
  channels_of_mono rfl

/-- A channel alone holds what it announces. -/
theorem WellFormed.lane {frame : Frame} (wellFormed : frame.WellFormed) {index : Nat}
    (inside : index < frame.channelCount) : (frame.lane index).WellFormed := by
  have length := length_channel frame index wellFormed inside
  simp only [WellFormed, Frame.lane, length, Nat.one_mul]

end Frame

/-- Loading a frame with two channels, or one of them alone. -/
theorem StreamBuffer.Lane.load {lane : Nat} {wide narrow : StreamBuffer}
    (known : wide.Lane lane narrow) (inside : lane < 2) {frame : Frame}
    (stereo : frame.channelCount = 2) :
    (wide.load frame).Lane lane (narrow.load (frame.lane lane)) where
  bandLength := known.bandLength
  snapshotTaken := rfl
  channels := by
    simp only [StreamBuffer.load, Frame.channels_of_stereo stereo, Frame.channels_lane]
    match lane, inside with
    | 0, _ => rfl
    | 1, _ => rfl
  bands := known.bands
  snapshots := known.snapshots

/-- Putting two channels into a frame and taking out one of them is putting that channel alone into
a frame. -/
theorem StreamBuffer.Lane.store {lane : Nat} {wide narrow : StreamBuffer}
    (known : wide.Lane lane narrow) (inside : lane < 2) {format other : Format}
    (shaped : wide.Shaped format) (alsoShaped : narrow.Shaped other)
    (both : wide.channelCount = 2) (single : narrow.channelCount = 1) {frame : Frame}
    (length : frame.length = format.frameLength) (alsoLength : frame.length = other.frameLength) :
    narrow.store (frame.lane lane) = (wide.store frame).lane lane := by
  have count : narrow.channels.length = maxChannels := alsoShaped.channels.1
  obtain ⟨row, found⟩ := shaped.channels.getElem?_eq_some (Nat.lt_of_lt_of_le inside (by decide))
  have alsoFound : narrow.channels[0]? = some row := known.channels.symm.trans found
  have wideRow : (wide.store frame).channel lane = row := by
    refine Frame.channel_withChannels frame ?_ ?_
    · intro row member
      rw [shaped.channels.2 row (List.mem_of_mem_take member), length]
    · rw [both, List.getElem?_take_of_lt inside, found]
  have narrowRow : (narrow.store (frame.lane lane)).channel 0 = row := by
    refine Frame.channel_withChannels (frame.lane lane) ?_ ?_
    · intro row member
      exact (alsoShaped.channels.2 row (List.mem_of_mem_take member)).trans alsoLength.symm
    · rw [single, List.getElem?_take_of_lt Nat.one_pos, alsoFound]
  have mono : (narrow.store (frame.lane lane)).channelCount = 1 := by
    simp [StreamBuffer.store, Frame.withChannels, single, count, maxChannels]
  have data : (narrow.store (frame.lane lane)).data = (wide.store frame).channel lane := by
    rw [← Frame.channel_of_mono mono, narrowRow, wideRow]
  have whole : narrow.store (frame.lane lane) =
      { rate := frame.rate
        channelCount := (narrow.store (frame.lane lane)).channelCount
        length := frame.length
        data := (narrow.store (frame.lane lane)).data } := rfl
  rw [whole, mono, data]
  rfl

/-- The call as an engine for one of the channels gets it. -/
def Call.lane (lane : Nat) : Call → Call
  | .capture frame => .capture (frame.lane lane)
  | call => call

/-- The reply as an engine for one of the channels gives it. -/
def Reply.lane (lane : Nat) : Reply → Reply
  | .frame final => .frame (final.lane lane)
  | reply => reply

/-- A call that an engine with two channels and the engines for one of them take: a captured frame
has two channels, and everything else means the same to all of them. -/
def Call.Paired : Call → Prop
  | .capture frame => frame.channelCount = 2
  | call => call.Shared

/-- A channel of a well-formed call is a well-formed call. -/
theorem Call.WellFormed.lane {call : Call} (wellFormed : call.WellFormed) (paired : call.Paired)
    {lane : Nat} (inside : lane < 2) : (call.lane lane).WellFormed := by
  cases call with
  | capture frame =>
    have stereo : frame.channelCount = 2 := paired
    exact Frame.WellFormed.lane wellFormed (by rw [stereo]; exact inside)
  | _ => exact wellFormed

namespace Engine

variable {lane : Nat}

/-- Whenever a call of a run captures a frame, the effects that are on work on each channel by
itself. -/
def SeparableWhenCapturing (engine : Engine) : List Call → Prop
  | [] => True
  | call :: calls =>
    (∀ frame, call = .capture frame → engine.rack.Separable) ∧
      SeparableWhenCapturing (engine.perform call).state calls

/-- A reply without a frame is the same for every channel. -/
theorem map_replying {Answer : Type} {reply : Answer → Reply}
    (kept : ∀ answer, (reply answer).lane lane = reply answer) (outcome : Outcome Engine Answer) :
    (replying reply outcome).result.map (Reply.lane lane) = (replying reply outcome).result := by
  obtain ⟨result, state, notices, released⟩ := outcome
  cases result with
  | error fault => rfl
  | ok answer => exact congrArg Except.ok (kept answer)

/-- A call that means the same to all gives back no frame. -/
theorem map_perform_of_shared {call : Call} (shared : call.Shared) (engine : Engine) :
    (engine.perform call).result.map (Reply.lane lane) = (engine.perform call).result := by
  cases call with
  | capture frame => exact shared.elim
  | _ => exact map_replying (fun _ => rfl) _

/-- Processing a frame keeps the shape of the storage. -/
theorem Stored.shaped_process {engine : Engine} (stored : engine.Stored) {frame : Frame}
    (wellFormed : frame.WellFormed)
    (matching : engine.frameFault engine.format.inputChannels frame = none) :
    (engine.process frame).1.state.capturing.Shaped engine.format := by
  have loaded := shaped_loadCaptured engine stored.supported stored.capturing wellFormed matching
  obtain ⟨rack, capturing, after, -, shaped⟩ := process_state engine frame
  rw [after]
  exact shaped engine.format loaded

/-- An engine for one channel answers as an engine with two does, with the frame for its channel,
and they are left in step. -/
structure EndsAlong (inside : lane < 2) (wide narrow : Outcome Engine Reply) : Prop where
  result : narrow.result = wide.result.map (Reply.lane lane)
  state : InStep (RackRelation.alongLane inside) wide.state narrow.state

namespace InStep

variable {inside : lane < 2} {wide narrow : Engine}

/-- Loading a captured frame, or one of its channels alone. -/
theorem loadCaptured_lane (known : InStep (RackRelation.alongLane inside) wide narrow)
    {frame : Frame} (stereo : frame.channelCount = 2) :
    (wide.loadCaptured frame).Lane lane (narrow.loadCaptured (frame.lane lane)) ∧
      (wide.loadCaptured frame).channelCount = 2 ∧
      (narrow.loadCaptured (frame.lane lane)).channelCount = 1 := by
  have whole : ¬ wide.format.mixesDown = true := by
    simp [Format.mixesDown, known.wideInputs, known.wideOutputs]
  have alsoWhole : ¬ narrow.format.mixesDown = true := by
    simp [Format.mixesDown, known.inputs, known.single]
  simp only [loadCaptured, whole, alsoWhole, known.wideInputs, known.inputs]
  have loaded := known.capturing.load inside stereo
  refine ⟨loaded.splitChannels inside, ?_, ?_⟩
  · exact (StreamBuffer.channelCount_splitChannels _ 2).trans stereo
  · exact StreamBuffer.channelCount_splitChannels _ 1

/-- A frame with two channels is refused like one of its channels alone. -/
theorem frameFault_lane (known : InStep (RackRelation.alongLane inside) wide narrow) {frame : Frame}
    (stereo : frame.channelCount = 2) :
    wide.frameFault wide.format.inputChannels frame =
      narrow.frameFault narrow.format.inputChannels (frame.lane lane) := by
  rw [known.wideInputs, known.inputs]
  exact frameFault_congr known.rate rfl rfl (iff_of_true stereo rfl)

/-- Passing a frame that matches through the stages: the frame that both channels leave in holds the
frame that each of them leaves in alone. -/
theorem process_lane (known : InStep (RackRelation.alongLane inside) wide narrow)
    (stored : wide.Stored) (alsoStored : narrow.Stored) (separable : wide.rack.Separable)
    {frame : Frame} (wellFormed : frame.WellFormed) (stereo : frame.channelCount = 2)
    (matching : wide.frameFault wide.format.inputChannels frame = none) :
    EndsInStep (RackRelation.alongLane inside) (wide.process frame).1
        (narrow.process (frame.lane lane)).1 ∧
      ((wide.process frame).1.result = .ok () →
        (narrow.process (frame.lane lane)).2 = (wide.process frame).2.lane lane) := by
  have alsoMatching := (known.frameFault_lane stereo).symm.trans matching
  have alsoWellFormed : (frame.lane lane).WellFormed :=
    wellFormed.lane (by rw [stereo]; exact inside)
  obtain ⟨loaded, both, single⟩ := known.loadCaptured_lane stereo
  have same := known.process (known.rack.separable separable) loaded both single
  refine ⟨same, fun done => ?_⟩
  have whole : wide.frameInWork frame = frame :=
    if_neg (by simp [Format.mixesDown, known.wideInputs, known.wideOutputs])
  have alsoWhole : narrow.frameInWork (frame.lane lane) = frame.lane lane :=
    if_neg (by simp [Format.mixesDown, known.inputs, known.single])
  rw [process_final done, process_final (same.result.symm.trans done), whole, alsoWhole]
  exact same.state.capturing.store inside
    (stored.shaped_process wellFormed matching)
    (alsoStored.shaped_process alsoWellFormed alsoMatching)
    ((channelCount_process wide frame).trans both)
    ((channelCount_process narrow (frame.lane lane)).trans single)
    (frameFault_eq_none_iff.mp matching).2.2 (frameFault_eq_none_iff.mp alsoMatching).2.2

/-- Capturing a frame with two channels, or one of its channels alone. -/
theorem capture_lane (known : InStep (RackRelation.alongLane inside) wide narrow)
    (stored : wide.Stored) (alsoStored : narrow.Stored) (separable : wide.rack.Separable)
    {frame : Frame} (wellFormed : frame.WellFormed) (stereo : frame.channelCount = 2) :
    EndsAlong inside (wide.perform (.capture frame))
      (narrow.perform (.capture (frame.lane lane))) := by
  have mismatch := known.frameFault_lane stereo
  simp only [perform, capture_of_idle known.idle, capture_of_idle known.alsoIdle, ← mismatch]
  cases matching : wide.frameFault wide.format.inputChannels frame with
  | some fault => exact ⟨rfl, known⟩
  | none =>
    obtain ⟨same, final⟩ :=
      known.process_lane stored alsoStored separable wellFormed stereo matching
    refine ⟨?_, same.state⟩
    simp only [replying, ← same.result]
    cases done : (wide.process frame).1.result with
    | error fault => rfl
    | ok answer => exact congrArg (fun frame => Except.ok (Reply.frame frame)) (final done)

/-- An engine with two channels and an engine for one of them answer a call alike, with the frame
for that channel, and stay in step. -/
theorem perform_lane (known : InStep (RackRelation.alongLane inside) wide narrow)
    (stored : wide.Stored) (alsoStored : narrow.Stored) {call : Call}
    (separable : ∀ frame, call = .capture frame → wide.rack.Separable)
    (wellFormed : call.WellFormed) (paired : call.Paired) :
    EndsAlong inside (wide.perform call) (narrow.perform (call.lane lane)) := by
  have shared (means : call.Shared) (same : call.lane lane = call) :
      EndsAlong inside (wide.perform call) (narrow.perform (call.lane lane)) := by
    have ends := known.perform_shared means
    rw [same]
    exact ⟨by rw [map_perform_of_shared means, ends.result], ends.state⟩
  cases call with
  | capture frame =>
    exact known.capture_lane stored alsoStored (separable frame rfl) wellFormed paired
  | _ => exact shared paired rfl

/-- They answer every sequence of calls alike, with the frames for the channel, and stay in step. -/
theorem run_lane (known : InStep (RackRelation.alongLane inside) wide narrow)
    (stored : wide.Stored) (alsoStored : narrow.Stored) (calls : List Call)
    (separable : wide.SeparableWhenCapturing calls)
    (wellFormed : ∀ call ∈ calls, call.WellFormed) (paired : ∀ call ∈ calls, call.Paired) :
    (narrow.run (calls.map (Call.lane lane))).1 =
        (wide.run calls).1.map (Except.map (Reply.lane lane)) ∧
      InStep (RackRelation.alongLane inside) (wide.run calls).2
        (narrow.run (calls.map (Call.lane lane))).2 := by
  induction calls generalizing wide narrow with
  | nil => exact ⟨rfl, known⟩
  | cons call calls inductionHypothesis =>
    have fit := wellFormed call List.mem_cons_self
    have takes := paired call List.mem_cons_self
    have same := known.perform_lane stored alsoStored separable.1 fit takes
    obtain ⟨answers, final⟩ := inductionHypothesis same.state (stored.perform fit)
      (alsoStored.perform (fit.lane takes inside)) separable.2
      (fun later member => wellFormed later (List.mem_cons_of_mem call member))
      fun later member => paired later (List.mem_cons_of_mem call member)
    simp only [List.map_cons, Engine.run, same.result, answers]
    exact ⟨trivial, final⟩

end InStep

/-- One channel of an engine that lets two leave, against an engine for that channel. -/
theorem run_of_create (inside : lane < 2) {id other : Int} {rate : UInt32} {reverseChannels : Nat}
    {stereo mono : Engine}
    (made : (create
      { id, rate, inputChannels := 2, outputChannels := 2, reverseChannels }).1 = .ok stereo)
    (alsoMade : (create { id := other, rate, reverseChannels }).1 = .ok mono)
    (calls : List Call) (separable : stereo.SeparableWhenCapturing calls)
    (wellFormed : ∀ call ∈ calls, call.WellFormed) (paired : ∀ call ∈ calls, call.Paired) :
    (mono.run (calls.map (Call.lane lane))).1 =
      (stereo.run calls).1.map (Except.map (Reply.lane lane)) := by
  have none : ∀ call ∈ ([] : List Call), call.WellFormed := List.forall_mem_nil _
  have stored : stereo.Stored := Reachable.stored ⟨_, [], stereo, made, none, rfl⟩
  have alsoStored : mono.Stored := Reachable.stored ⟨_, [], mono, alsoMade, none, rfl⟩
  have start : InStep (RackRelation.alongLane inside) stereo mono :=
    .of_create Rack.Follows.fresh made alsoMade
  exact (start.run_lane stored alsoStored calls separable wellFormed paired).1

/-- An engine that takes two channels and lets both leave is two engines for one channel side by
side. All three are created for the same rate and the same stream to the loudspeaker and get the
same calls, only that of each captured frame the one engine for one channel gets the first channel
and the other the second. Whenever a frame is captured, mobile echo control must not add comfort
noise and the gain control must have a fixed gain, if they are on. Then all three answer every call
alike, and a captured frame that was taken leaves both engines for one channel as that channel of
what leaves the engine for two. -/
theorem run_side_by_side {id leftId rightId : Int} {rate : UInt32} {reverseChannels : Nat}
    {stereo left right : Engine}
    (made : (create
      { id, rate, inputChannels := 2, outputChannels := 2, reverseChannels }).1 = .ok stereo)
    (leftMade : (create { id := leftId, rate, reverseChannels }).1 = .ok left)
    (rightMade : (create { id := rightId, rate, reverseChannels }).1 = .ok right)
    (calls : List Call) (separable : stereo.SeparableWhenCapturing calls)
    (wellFormed : ∀ call ∈ calls, call.WellFormed) (paired : ∀ call ∈ calls, call.Paired) :
    (left.run (calls.map (Call.lane 0))).1 =
        (stereo.run calls).1.map (Except.map (Reply.lane 0)) ∧
      (right.run (calls.map (Call.lane 1))).1 =
        (stereo.run calls).1.map (Except.map (Reply.lane 1)) :=
  ⟨run_of_create (by decide) made leftMade calls separable wellFormed paired,
    run_of_create (by decide) made rightMade calls separable wellFormed paired⟩

/-- A frame with a different level in each channel. -/
def unevenFrame : Frame :=
  { rate := 16000, channelCount := 2, length := 160
    data := (List.replicate 160 [1000, -3]).flatten }

/-- A run in which both effects with a condition are on and meet it when a frame is captured. -/
def meetingCalls : List Call :=
  [.adjust (.comfortNoise false), .enable .mobileEchoControl true,
    .adjust (.gainMode .fixedDigital), .enable .gainControl true, .enable .noiseSuppressor true,
    .reportDelay 20, .capture unevenFrame, .render (Frame.silent 16000 1 160)]

/-- The three engines on that run. -/
theorem run_side_by_side_meeting :
    ((blank 2 {}).run (meetingCalls.map (Call.lane 0))).1 =
        ((blank 1 { inputChannels := 2, outputChannels := 2 }).run meetingCalls).1.map
          (Except.map (Reply.lane 0)) ∧
      ((blank 3 {}).run (meetingCalls.map (Call.lane 1))).1 =
        ((blank 1 { inputChannels := 2, outputChannels := 2 }).run meetingCalls).1.map
          (Except.map (Reply.lane 1)) := by
  have made : (create { id := 1, inputChannels := 2, outputChannels := 2 }).1 =
      .ok (blank 1 { inputChannels := 2, outputChannels := 2 }) := rfl
  have leftMade : (create { id := 2 }).1 = .ok (blank 2 {}) := rfl
  have rightMade : (create { id := 3 }).1 = .ok (blank 3 {}) := rfl
  have separable : (blank 1 { inputChannels := 2, outputChannels := 2 }).SeparableWhenCapturing
      meetingCalls :=
    ⟨nofun, nofun, nofun, nofun, nofun, nofun, fun _ _ => ⟨fun _ => rfl, fun _ => rfl⟩, nofun,
      trivial⟩
  have wellFormed : ∀ call ∈ meetingCalls, call.WellFormed := by
    have even : unevenFrame.WellFormed := by decide +kernel
    simp [meetingCalls, Call.WellFormed, even, Frame.wellFormed_silent]
  have paired : ∀ call ∈ meetingCalls, call.Paired := by
    have stereo : unevenFrame.channelCount = 2 := rfl
    simp [meetingCalls, Call.Paired, Call.Shared, stereo]
  exact run_side_by_side made leftMade rightMade meetingCalls separable wellFormed paired

end Engine

end VoiceEngine
