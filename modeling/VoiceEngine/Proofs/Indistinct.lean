import VoiceEngine.Proofs.Frames
import VoiceEngine.Proofs.Shown

/-!
# Engines that no caller can tell apart

Two racks are indistinct when every effect shows the same in both. Two engines are indistinct when
their racks are and they have the same format, delay, storage and recorder; the identifier only
shows in notices.

Indistinct engines answer every call alike and stay indistinct, so no sequence of calls tells them
apart. The proof follows the calls: each effect is compared where it is used, and there it is
either on, so that both engines hold the same, or off, so that it does nothing. The one place where
an effect that was off is used is when it goes on, and then it is prepared from its settings. An
effect that may differ while it is off is what starting anew after different histories leaves, and
this is what the relation is for.
-/

namespace VoiceEngine

/-- Every effect of one rack shows the same as that effect of the other. What showing the same means
is said once for all effects, by `ShowSame`: equal settings, and equal altogether if the effect is
on. -/
structure Rack.Indistinct (first second : Rack) : Prop where
  echoCanceller : ShowSame first.echoCanceller second.echoCanceller
  mobileEchoControl : ShowSame first.mobileEchoControl second.mobileEchoControl
  gainControl : ShowSame first.gainControl second.gainControl
  highPass : ShowSame first.highPass second.highPass
  levelMeter : ShowSame first.levelMeter second.levelMeter
  noiseSuppressor : ShowSame first.noiseSuppressor second.noiseSuppressor
  voiceDetector : ShowSame first.voiceDetector second.voiceDetector

namespace Rack

variable {first second : Rack}

/-- The same effects are on in both racks, since the flag of an effect is one of its settings. -/
theorem Indistinct.isEnabled (known : first.Indistinct second) (kind : EffectKind) :
    first.isEnabled kind = second.isEnabled kind := by
  cases kind with
  | echoCanceller => exact known.echoCanceller.enabled
  | mobileEchoControl => exact known.mobileEchoControl.enabled
  | gainControl => exact known.gainControl.enabled
  | highPass => exact known.highPass.enabled
  | levelMeter => exact known.levelMeter.enabled
  | noiseSuppressor => exact known.noiseSuppressor.enabled
  | voiceDetector => exact known.voiceDetector.enabled

/-- Preparing one effect ends alike. An effect is prepared from its settings and the format, so only
those have to agree. -/
theorem Indistinct.prepare (known : first.Indistinct second) (format : Format)
    (kind : EffectKind) :
    SameOutcome Indistinct (first.prepare format kind) (second.prepare format kind) := by
  cases kind with
  | echoCanceller =>
    exact { known with
      echoCanceller := EchoCanceller.showSame_prepare format known.echoCanceller.settings }
  | mobileEchoControl =>
    have same := MobileEchoControl.showSame_prepare format known.mobileEchoControl.settings
    rw [prepare_mobileEchoControl, prepare_mobileEchoControl]
    exact same.map fun _ _ shown => { known with mobileEchoControl := shown }
  | gainControl =>
    exact { known with
      gainControl := GainControl.showSame_prepare known.gainControl.settings }
  | highPass =>
    exact { known with highPass := HighPass.showSame_prepare format known.highPass.settings }
  | levelMeter =>
    exact { known with levelMeter := LevelMeter.showSame_prepare known.levelMeter.settings }
  | noiseSuppressor =>
    exact { known with
      noiseSuppressor := NoiseSuppressor.showSame_prepare format known.noiseSuppressor.settings }
  | voiceDetector =>
    exact { known with
      voiceDetector := VoiceDetector.showSame_prepare known.voiceDetector.settings }

/-- Preparing effects in a row ends alike and leaves indistinct racks. When one refuses it refuses
in both, and neither goes on. -/
theorem Indistinct.prepareEach (known : first.Indistinct second) (format : Format)
    (kinds : List EffectKind) :
    (Rack.prepareEach format kinds first).1 = (Rack.prepareEach format kinds second).1 ∧
      (Rack.prepareEach format kinds first).2.Indistinct
        (Rack.prepareEach format kinds second).2 :=
  Rack.prepareEach_related (fun known kind => known.prepare format kind) known kinds

/-- Switching an effect off, or on while it is on, leaves indistinct racks. An effect that was off
and goes on is left to `Indistinct.prepare_switch`: the two may hold different things, which nobody
sees only as long as they stay off. -/
theorem Indistinct.switch (known : first.Indistinct second) {enabled : Bool} {kind : EffectKind}
    (still : enabled = true → first.isEnabled kind = true) :
    (first.switch enabled kind).Indistinct (second.switch enabled kind) := by
  cases kind with
  | echoCanceller =>
    exact { known with
      echoCanceller := known.echoCanceller.change ({ · with enabled }) (fun _ => rfl) still }
  | mobileEchoControl =>
    exact { known with
      mobileEchoControl :=
        known.mobileEchoControl.change ({ · with enabled }) (fun _ => rfl) still }
  | gainControl =>
    exact { known with
      gainControl := known.gainControl.change ({ · with enabled }) (fun _ => rfl) still }
  | highPass =>
    exact { known with
      highPass := known.highPass.change ({ · with enabled }) (fun _ => rfl) still }
  | levelMeter =>
    exact { known with
      levelMeter := known.levelMeter.change ({ · with enabled }) (fun _ => rfl) still }
  | noiseSuppressor =>
    exact { known with
      noiseSuppressor := known.noiseSuppressor.change ({ · with enabled }) (fun _ => rfl) still }
  | voiceDetector =>
    exact { known with
      voiceDetector := known.voiceDetector.change ({ · with enabled }) (fun _ => rfl) still }

/-- An effect that goes on is prepared from its settings, so what it held while it was off does not
show. This is why it is enough that the settings agree as long as the effect is off. -/
theorem Indistinct.prepare_switch (known : first.Indistinct second) (format : Format)
    (kind : EffectKind) :
    SameOutcome Indistinct ((first.switch true kind).prepare format kind)
      ((second.switch true kind).prepare format kind) := by
  cases kind with
  | echoCanceller =>
    have same := Configurable.settings_congr ({ · with enabled := true })
      known.echoCanceller.settings fun _ => rfl
    exact { known with echoCanceller := EchoCanceller.showSame_prepare format same }
  | mobileEchoControl =>
    have same := Configurable.settings_congr ({ · with enabled := true })
      known.mobileEchoControl.settings fun _ => rfl
    rw [prepare_mobileEchoControl, prepare_mobileEchoControl]
    exact (MobileEchoControl.showSame_prepare format same).map
      fun _ _ shown => { known with mobileEchoControl := shown }
  | gainControl =>
    have same := Configurable.settings_congr ({ · with enabled := true })
      known.gainControl.settings fun _ => rfl
    exact { known with gainControl := GainControl.showSame_prepare same }
  | highPass =>
    have same := Configurable.settings_congr ({ · with enabled := true })
      known.highPass.settings fun _ => rfl
    exact { known with highPass := HighPass.showSame_prepare format same }
  | levelMeter =>
    have same := Configurable.settings_congr ({ · with enabled := true })
      known.levelMeter.settings fun _ => rfl
    exact { known with levelMeter := LevelMeter.showSame_prepare same }
  | noiseSuppressor =>
    have same := Configurable.settings_congr ({ · with enabled := true })
      known.noiseSuppressor.settings fun _ => rfl
    exact { known with noiseSuppressor := NoiseSuppressor.showSame_prepare format same }
  | voiceDetector =>
    have same := Configurable.settings_congr ({ · with enabled := true })
      known.voiceDetector.settings fun _ => rfl
    exact { known with voiceDetector := VoiceDetector.showSame_prepare same }

/-- Handing a value to an effect ends alike. Whether the effect takes it, and what its settings are
afterwards, depends on its settings alone; the other effects are not concerned. -/
theorem Indistinct.adjust (known : first.Indistinct second) (setting : Setting) :
    SameOutcome Indistinct (first.adjust setting) (second.adjust setting) := by
  have changes := setting.changesSettings
  rw [adjust_eq, adjust_eq]
  cases its : setting.tuning with
  | echoCanceller setter =>
    rw [its] at changes
    exact (known.echoCanceller.set changes).map
      fun _ _ shown => { known with echoCanceller := shown }
  | mobileEchoControl setter =>
    rw [its] at changes
    exact (known.mobileEchoControl.set changes).map
      fun _ _ shown => { known with mobileEchoControl := shown }
  | gainControl setter =>
    rw [its] at changes
    exact (known.gainControl.set changes).map fun _ _ shown => { known with gainControl := shown }
  | noiseSuppressor setter =>
    rw [its] at changes
    exact (known.noiseSuppressor.set changes).map
      fun _ _ shown => { known with noiseSuppressor := shown }
  | voiceDetector setter =>
    rw [its] at changes
    exact (known.voiceDetector.set changes).map
      fun _ _ shown => { known with voiceDetector := shown }

end Rack

namespace CaptureStage

variable {first second : Rack}

/-- Every stage ends alike, leaves the same audio and indistinct racks. Each case hands its own
effect to the one lemma about effects that fits it, which asks that the effect does nothing while it
is off; the other effects are the same as before. The snapshot has no effect of its own and is taken
when one of two is on, so both racks take it or neither does. -/
theorem run_indistinct (known : first.Indistinct second) (delay : StreamDelay)
    (audio : StreamBuffer) (stage : CaptureStage) :
    (stage.run delay first audio).fault = (stage.run delay second audio).fault ∧
      (stage.run delay first audio).audio = (stage.run delay second audio).audio ∧
      (stage.run delay first audio).effect.Indistinct (stage.run delay second audio).effect := by
  cases stage with
  | highPass =>
    obtain ⟨fault, left, shown⟩ :=
      known.highPass.pass (·.capture audio) fun _ off => HighPass.capture_of_off off audio
    exact ⟨fault, left, { known with highPass := shown }⟩
  | measureGain =>
    have shown :=
      known.gainControl.step (·.measure audio) fun _ off => GainControl.measure_of_off off audio
    exact ⟨rfl, rfl, { known with gainControl := shown }⟩
  | echoCanceller =>
    obtain ⟨fault, left, shown⟩ := known.echoCanceller.pass (·.capture delay audio)
      fun _ off => EchoCanceller.capture_of_off off delay audio
    exact ⟨fault, left, { known with echoCanceller := shown }⟩
  | snapshot =>
    have mobile : first.mobileEchoControl.enabled = second.mobileEchoControl.enabled :=
      known.mobileEchoControl.enabled
    have noise : first.noiseSuppressor.enabled = second.noiseSuppressor.enabled :=
      known.noiseSuppressor.enabled
    simp only [run, mobile, noise]
    split
    · exact ⟨rfl, rfl, known⟩
    · exact ⟨rfl, rfl, known⟩
  | noiseSuppressor =>
    obtain ⟨fault, left, shown⟩ := known.noiseSuppressor.pass (·.capture audio)
      fun _ off => NoiseSuppressor.capture_of_off off audio
    exact ⟨fault, left, { known with noiseSuppressor := shown }⟩
  | mobileEchoControl =>
    obtain ⟨fault, left, shown⟩ := known.mobileEchoControl.pass (·.capture delay audio)
      fun _ off => MobileEchoControl.capture_of_off off delay audio
    exact ⟨fault, left, { known with mobileEchoControl := shown }⟩
  | voiceDetector =>
    have shown := known.voiceDetector.step (·.capture audio)
      fun _ off => VoiceDetector.capture_of_off off audio
    exact ⟨rfl, rfl, { known with voiceDetector := shown }⟩
  | applyGain =>
    obtain ⟨fault, left, shown⟩ :=
      known.gainControl.pass (·.capture audio) fun _ off => GainControl.capture_of_off off audio
    exact ⟨fault, left, { known with gainControl := shown }⟩
  | levelMeter =>
    have shown :=
      known.levelMeter.step (·.capture audio) fun _ off => LevelMeter.capture_of_off off audio
    exact ⟨rfl, rfl, { known with levelMeter := shown }⟩

/-- Stages in a row end alike and leave indistinct racks, and in both the same audio goes from one
to the next. The induction is on the stages, with both racks and the audio arbitrary. -/
theorem runEach_indistinct (known : first.Indistinct second) (delay : StreamDelay)
    (audio : StreamBuffer) (stages : List CaptureStage) :
    (runEach delay stages first audio).1 = (runEach delay stages second audio).1 ∧
      (runEach delay stages first audio).2.1.Indistinct
        (runEach delay stages second audio).2.1 ∧
      (runEach delay stages first audio).2.2 = (runEach delay stages second audio).2.2 := by
  induction stages generalizing first second audio with
  | nil => exact ⟨rfl, known, rfl⟩
  | cons stage stages inductionHypothesis =>
    obtain ⟨fault, left, shown⟩ := run_indistinct known delay audio stage
    simp only [runEach]
    rw [fault, left]
    cases (stage.run delay second audio).fault with
    | none => exact inductionHypothesis shown (stage.run delay second audio).audio
    | some cause => exact ⟨rfl, shown, rfl⟩

end CaptureStage

namespace RenderStage

variable {first second : Rack}

/-- Every stage ends alike. On this side no stage changes the audio, and gain control and the level
meter cannot fail. -/
theorem run_indistinct (known : first.Indistinct second) (audio : StreamBuffer)
    (stage : RenderStage) :
    SameOutcome Rack.Indistinct (stage.run first audio) (stage.run second audio) := by
  cases stage with
  | echoCanceller =>
    have same := known.echoCanceller.attempt (·.render audio)
      fun _ off => EchoCanceller.render_of_off off audio
    exact same.map fun _ _ shown => { known with echoCanceller := shown }
  | mobileEchoControl =>
    have same := known.mobileEchoControl.attempt (·.render audio)
      fun _ off => MobileEchoControl.render_of_off off audio
    exact same.map fun _ _ shown => { known with mobileEchoControl := shown }
  | gainControl =>
    have shown :=
      known.gainControl.step (·.render audio) fun _ off => GainControl.render_of_off off audio
    exact { known with gainControl := shown }
  | levelMeter =>
    have shown :=
      known.levelMeter.step (·.render audio) fun _ off => LevelMeter.render_of_off off audio
    exact { known with levelMeter := shown }

/-- Stages in a row end alike and leave indistinct racks, all of them looking at the same audio. -/
theorem runEach_indistinct (known : first.Indistinct second) (audio : StreamBuffer)
    (stages : List RenderStage) :
    (runEach audio stages first).1 = (runEach audio stages second).1 ∧
      (runEach audio stages first).2.Indistinct (runEach audio stages second).2 :=
  runEach_related (fun known stage => run_indistinct known audio stage) known stages

end RenderStage

/-- Two engines agree in everything but their identifiers and what effects that are off hold. The
storage has to be the same too, since what is left in it from one frame reaches the next one through
the bands. -/
structure Engine.Indistinct (first second : Engine) : Prop where
  format : first.format = second.format
  delay : first.delay = second.delay
  capturing : first.capturing = second.capturing
  rendering : first.rendering = second.rendering
  recorder : first.recorder = second.recorder
  rack : first.rack.Indistinct second.rack

namespace Engine

/-- Two outcomes show a caller the same: what was answered, and an engine that is indistinct. The
notices are not compared, as they carry the identifier. -/
structure SameAnswer {Answer : Type} (first second : Outcome Engine Answer) : Prop where
  result : first.result = second.result
  state : first.state.Indistinct second.state

/-- An answer that is put differently still shows the same. -/
theorem SameAnswer.replying {Answer : Type} {first second : Outcome Engine Answer}
    (same : SameAnswer first second) (reply : Answer → Reply) :
    SameAnswer (Engine.replying reply first) (Engine.replying reply second) :=
  ⟨congrArg (Except.map reply) same.result, same.state⟩

namespace Indistinct

variable {first second : Engine}

/-- Starting anew. The storage is new in both and the delay forgotten, so only the effects have to
be compared. -/
theorem restart (known : first.Indistinct second) :
    SameAnswer (restart first) (restart second) := by
  obtain ⟨outcome, rack⟩ := known.rack.prepareEach first.format EffectKind.all
  constructor
  · rw [restart_result, restart_result, outcome, known.format]
  · rw [restart_state, restart_state]
    rw [known.format] at rack ⊢
    rw [known.delay]
    exact ⟨rfl, rfl, rfl, rfl, known.recorder, rack⟩

/-- Changing the format. Whether the new one is accepted depends on the format at hand alone. -/
theorem reconfigure (known : first.Indistinct second)
    (change : Format → Except FormatError Format) :
    SameAnswer (reconfigure change first) (reconfigure change second) := by
  simp only [Engine.reconfigure, known.format]
  cases change second.format with
  | error cause => exact ⟨rfl, known⟩
  | ok format => exact restart { known with format := rfl }

/-- Switching an effect. Whether it is excluded is read off the flags, which agree. It is prepared
when it goes on, so then only its settings matter, and when it refuses both engines are switched
back to what they were. -/
theorem enable (known : first.Indistinct second) (kind : EffectKind) (enabled : Bool) :
    SameAnswer (enable kind enabled first) (enable kind enabled second) := by
  have excluded : excludes first.rack kind = excludes second.rack kind := by
    cases kind with
    | echoCanceller => exact known.rack.isEnabled .mobileEchoControl
    | mobileEchoControl => exact known.rack.isEnabled .echoCanceller
    | _ => rfl
  have flag := known.rack.isEnabled kind
  simp only [Engine.enable, excluded, flag]
  split
  · exact ⟨rfl, known⟩
  · split
    case isTrue goesOn =>
      obtain ⟨rfl, off⟩ := goesOn
      rw [Bool.not_eq_true'] at off
      have prepared := known.rack.prepare_switch first.format kind
      rw [known.format] at prepared ⊢
      rcases prepared.cases with
        ⟨fault, failed, alsoFailed⟩ | ⟨one, other, done, alsoDone, rack⟩
      · rw [failed, alsoFailed]
        refine ⟨rfl, ?_⟩
        dsimp only
        rw [Rack.switch_back off, Rack.switch_back (flag.trans off)]
        exact { known with format := rfl }
      · rw [done, alsoDone]
        exact ⟨rfl, { known with format := rfl, rack }⟩
    case isFalse stays =>
      refine ⟨rfl, { known with rack := known.rack.switch ?_ }⟩
      rintro rfl
      rw [flag]
      simpa using stays

/-- Handing a value to an effect. A value that is refused leaves both engines as they were. -/
theorem adjust (known : first.Indistinct second) (setting : Setting) :
    SameAnswer (adjust setting first) (adjust setting second) := by
  simp only [Engine.adjust]
  rcases (known.rack.adjust setting).cases with
    ⟨fault, failed, alsoFailed⟩ | ⟨one, other, done, alsoDone, rack⟩
  · rw [failed, alsoFailed]
    exact ⟨rfl, known⟩
  · rw [done, alsoDone]
    exact ⟨rfl, { known with rack }⟩

/-- Reporting a delay. It is kept even when the call is refused, and in the same way in both. -/
theorem reportDelay (known : first.Indistinct second) (ms : Int) :
    SameAnswer (reportDelay ms first) (reportDelay ms second) := by
  have reported : Indistinct { first with delay := first.delay.report ms }
      { second with delay := second.delay.report ms } :=
    { known with delay := congrArg (StreamDelay.report · ms) known.delay }
  simp only [Engine.reportDelay]
  split
  · exact ⟨rfl, reported⟩
  · exact ⟨rfl, reported⟩
  · exact ⟨rfl, reported⟩

/-- A call on the recorder, which is the same one in both engines. -/
theorem recording {Answer : Type} (known : first.Indistinct second)
    (call : Act Trace.Recorder Answer) :
    SameAnswer (recording call first) (recording call second) := by
  simp only [Engine.recording, Act.within, known.recorder]
  exact ⟨rfl, { known with recorder := rfl }⟩

/-- Passing a captured frame through the stages. The same frame comes out, since the same storage
goes in and the stages leave the same audio. -/
theorem process (known : first.Indistinct second) (frame : Frame) :
    SameAnswer (first.process frame).1 (second.process frame).1 ∧
      (first.process frame).2 = (second.process frame).2 := by
  have loaded : first.loadCaptured frame = second.loadCaptured frame := by
    simp only [loadCaptured, known.format, known.capturing]
  have inWork : first.frameInWork frame = second.frameInWork frame := by
    simp only [frameInWork, known.format]
  have stages := CaptureStage.runEach_indistinct known.rack second.delay
    (second.loadCaptured frame) CaptureStage.order
  simp only [Engine.process, known.delay, loaded, inWork, known.format]
  revert stages
  generalize CaptureStage.runEach second.delay CaptureStage.order first.rack
    (second.loadCaptured frame) = one
  generalize CaptureStage.runEach second.delay CaptureStage.order second.rack
    (second.loadCaptured frame) = other
  obtain ⟨outcome, rack, capturing⟩ := one
  obtain ⟨alsoOutcome, alsoRack, alsoCapturing⟩ := other
  rintro ⟨rfl, left, rfl⟩
  cases outcome with
  | none =>
    exact ⟨⟨rfl, ⟨rfl, rfl, rfl, known.rendering, known.recorder, left⟩⟩, rfl⟩
  | some reason =>
    exact ⟨⟨rfl, ⟨rfl, rfl, rfl, known.rendering, known.recorder, left⟩⟩, rfl⟩

/-- Taking in a captured frame. The same frame comes out, also when it is refused or cannot be
recorded. -/
theorem capture (known : first.Indistinct second) (frame : Frame) :
    SameAnswer (first.capture frame).1 (second.capture frame).1 ∧
      (first.capture frame).2 = (second.capture frame).2 := by
  have mismatch : first.frameFault first.format.inputChannels frame =
      second.frameFault second.format.inputChannels frame := by
    simp only [frameFault, known.format]
  have recorded := known.recording (Trace.Recorder.recordFrame .captured frame)
  have processed := recorded.state.process frame
  simp only [Engine.capture, mismatch, recorded.result]
  split
  · exact ⟨⟨rfl, known⟩, rfl⟩
  · split
    · exact ⟨⟨recorded.result, recorded.state⟩, rfl⟩
    · exact ⟨⟨processed.1.result, processed.1.state⟩, processed.2⟩

/-- Letting the stages see a frame to the loudspeaker. The report of the delay is forgotten in both
or in neither. -/
theorem observe (known : first.Indistinct second) (frame : Frame) :
    SameAnswer (observe first frame) (observe second frame) := by
  have stages := RenderStage.runEach_indistinct known.rack
    ((second.rendering.load frame).splitChannels frame.channelCount) RenderStage.order
  simp only [Engine.observe, known.rendering]
  revert stages
  generalize RenderStage.runEach ((second.rendering.load frame).splitChannels frame.channelCount)
    RenderStage.order first.rack = one
  generalize RenderStage.runEach ((second.rendering.load frame).splitChannels frame.channelCount)
    RenderStage.order second.rack = other
  obtain ⟨outcome, rack⟩ := one
  obtain ⟨alsoOutcome, alsoRack⟩ := other
  rintro ⟨rfl, left⟩
  cases outcome with
  | none =>
    exact ⟨rfl, { known with
      delay := congrArg StreamDelay.forget known.delay, rendering := rfl, rack := left }⟩
  | some reason => exact ⟨rfl, { known with rendering := rfl, rack := left }⟩

/-- Taking in a frame to the loudspeaker, which is checked and recorded before the stages see it. -/
theorem render (known : first.Indistinct second) (frame : Frame) :
    SameAnswer (render frame first) (render frame second) := by
  have mismatch : first.frameFault first.format.reverseChannels frame =
      second.frameFault second.format.reverseChannels frame := by
    simp only [frameFault, known.format]
  have recorded := known.recording (Trace.Recorder.recordFrame .rendered frame)
  have observed := recorded.state.observe frame
  simp only [Engine.render, mismatch, recorded.result]
  split
  · exact ⟨rfl, known⟩
  · split
    · exact ⟨recorded.result, recorded.state⟩
    · exact ⟨observed.result, observed.state⟩

/-- Reading the level of the captured stream. A meter that is off has none to give, whatever it
holds. -/
theorem takeCapturedLevel (known : first.Indistinct second) :
    SameAnswer (takeCapturedLevel first) (takeCapturedLevel second) := by
  obtain ⟨level, shown⟩ := known.rack.levelMeter.read LevelMeter.takeCaptured
    fun _ off => LevelMeter.takeCaptured_of_off off
  exact ⟨level, { known with rack := { known.rack with levelMeter := shown } }⟩

/-- Reading the level of the stream to the loudspeaker, as that of the captured stream. -/
theorem takeRenderedLevel (known : first.Indistinct second) :
    SameAnswer (takeRenderedLevel first) (takeRenderedLevel second) := by
  obtain ⟨level, shown⟩ := known.rack.levelMeter.read LevelMeter.takeRendered
    fun _ off => LevelMeter.takeRendered_of_off off
  exact ⟨level, { known with rack := { known.rack with levelMeter := shown } }⟩

/-- Indistinct engines answer every call alike and stay indistinct.

Proof: there is a lemma for every kind of call above. The two calls that start a recording write the
rate at hand, so for these the formats have to be equal first; changing the identifier changes what
is not compared. -/
theorem perform (known : first.Indistinct second) (call : Call) :
    SameAnswer (first.perform call) (second.perform call) := by
  cases call with
  | restart => exact known.restart.replying _
  | setRate hz => exact (known.reconfigure _).replying _
  | setChannels input output => exact (known.reconfigure _).replying _
  | setReverseChannels channels => exact (known.reconfigure _).replying _
  | enable kind enabled => exact (known.enable kind enabled).replying _
  | adjust setting => exact (known.adjust setting).replying _
  | reportDelay ms => exact (known.reportDelay ms).replying _
  | changeId id => exact ⟨rfl, { known with }⟩
  | capture frame =>
    obtain ⟨same, final⟩ := known.capture frame
    simp only [Engine.perform, final]
    exact same.replying _
  | render frame => exact (known.render frame).replying _
  | takeCapturedLevel => exact known.takeCapturedLevel.replying _
  | takeRenderedLevel => exact known.takeRenderedLevel.replying _
  | record sink =>
    have recorded := known.recording (Trace.Recorder.start sink first.format.rate.hz)
    simp only [Engine.perform, record]
    rw [known.format] at recorded ⊢
    exact recorded.replying _
  | recordFile path opened =>
    have recorded := known.recording (Trace.Recorder.startFile path opened first.format.rate.hz)
    simp only [Engine.perform, recordFile]
    rw [known.format] at recorded ⊢
    exact recorded.replying _
  | stopRecording => exact (known.recording Trace.Recorder.stop).replying _

/-- Indistinct engines answer every sequence of calls alike and stay indistinct. The induction is on
the calls, with both engines arbitrary. -/
theorem run (known : first.Indistinct second) (calls : List Call) :
    (first.run calls).1 = (second.run calls).1 ∧
      (first.run calls).2.Indistinct (second.run calls).2 := by
  induction calls generalizing first second with
  | nil => exact ⟨rfl, known⟩
  | cons call calls inductionHypothesis =>
    have same := known.perform call
    obtain ⟨answers, final⟩ := inductionHypothesis same.state
    constructor
    · simp only [Engine.run, same.result, answers]
    · exact final

end Indistinct

end Engine

end VoiceEngine
