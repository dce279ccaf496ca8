import VoiceEngine.Proofs.InUse

/-!
# Frames begin afresh

Nothing of a frame is left in what is done with the next one, other than what the effects and the
splitting filter are meant to remember. Two engines that differ in the samples that earlier frames
left in their storage, in how many channels these frames used and in whether a snapshot was taken of
them, are told apart by no call and stay like this.

The snapshot that mobile echo control compares against is an example: a frame makes the snapshot
before it invalid, and only the stage before noise suppression takes another.
-/

namespace VoiceEngine

namespace Engine

/-- Two engines have the same memory: they differ in what earlier frames left in their storage at
most. -/
structure SameMemory (first second : Engine) : Prop where
  id : first.id = second.id
  format : first.format = second.format
  delay : first.delay = second.delay
  capturing : first.capturing.SameMemory second.capturing
  rendering : first.rendering.SameMemory second.rendering
  rack : first.rack = second.rack
  recorder : first.recorder = second.recorder

/-- Two outcomes are the same in all that a caller sees of them, and leave engines with the same
memory. -/
structure SameEnd {Answer : Type} (first second : Outcome Engine Answer) : Prop where
  result : first.result = second.result
  notices : first.notices = second.notices
  released : first.released = second.released
  state : first.state.SameMemory second.state

/-- An answer that is put differently is still the same. -/
theorem SameEnd.replying {Answer : Type} {first second : Outcome Engine Answer}
    (same : SameEnd first second) (reply : Answer → Reply) :
    SameEnd (Engine.replying reply first) (Engine.replying reply second) :=
  { same with result := congrArg (Except.map reply) same.result }

namespace SameMemory

variable {first second : Engine} {frame : Frame}

/-- An engine has the memory that it has. -/
theorem refl (engine : Engine) : engine.SameMemory engine :=
  ⟨rfl, rfl, rfl, .refl _, .refl _, rfl, rfl⟩

/-- Both engines refuse the same frames for their form. -/
theorem frameFault (known : first.SameMemory second) (channels : Nat) (frame : Frame) :
    first.frameFault channels frame = second.frameFault channels frame := by
  simp only [Engine.frameFault, known.format]

/-- A captured frame that matches the format is loaded into audio that agrees. -/
theorem loadCaptured (known : first.SameMemory second) (supported : first.format.Supported)
    (matching : first.frameFault first.format.inputChannels frame = none) :
    (first.loadCaptured frame).Agree first.format.outputChannels (second.loadCaptured frame) := by
  obtain ⟨-, count, -⟩ := frameFault_eq_none_iff.mp matching
  have size := (loadCaptured_size first supported matching).1
  have loaded := known.capturing.load frame
  rw [count] at loaded
  have mixed : (if first.format.mixesDown then
      (first.capturing.load frame).mixDown first.format.outputChannels
        else first.capturing.load frame).Loaded first.format.inputChannels
      (if first.format.mixesDown then
        (second.capturing.load frame).mixDown first.format.outputChannels
          else second.capturing.load frame) := by
    split
    · exact loaded.mixDown first.format.outputChannels
    · exact loaded
  have agree := mixed.splitChannels
  rw [agree.count.symm.trans size] at agree
  simp only [Engine.loadCaptured, ← known.format]
  exact agree

/-- Passing a captured frame through the stages. The same frame comes out. -/
theorem process (known : first.SameMemory second) (supported : first.format.Supported)
    (matching : first.frameFault first.format.inputChannels frame = none) :
    SameEnd (first.process frame).1 (second.process frame).1 ∧
      (first.process frame).2 = (second.process frame).2 := by
  have loaded := known.loadCaptured supported matching
  have inWork : first.frameInWork frame = second.frameInWork frame := by
    simp only [frameInWork, known.format]
  have stages := CaptureStage.runEach_agree loaded second.delay CaptureStage.order second.rack
  rw [known.format] at stages
  simp only [Engine.process, known.delay, known.rack, known.id, known.format, inWork]
  revert stages
  generalize CaptureStage.runEach second.delay CaptureStage.order second.rack
    (first.loadCaptured frame) = one
  generalize CaptureStage.runEach second.delay CaptureStage.order second.rack
    (second.loadCaptured frame) = other
  obtain ⟨outcome, rack, audio⟩ := one
  obtain ⟨alsoOutcome, alsoRack, alsoAudio⟩ := other
  rintro ⟨rfl, rfl, left⟩
  cases outcome with
  | none =>
    have merged := left.mergeChannels
    exact ⟨⟨rfl, rfl, rfl, rfl, rfl, rfl, merged.toSameMemory, known.rendering, rfl,
      known.recorder⟩, merged.store _⟩
  | some reason =>
    exact ⟨⟨rfl, rfl, rfl, rfl, rfl, rfl, left.toSameMemory, known.rendering, rfl,
      known.recorder⟩, rfl⟩

/-- A call on the recorder. -/
theorem recording {Answer : Type} (known : first.SameMemory second)
    (call : Act Trace.Recorder Answer) :
    SameEnd (recording call first) (recording call second) := by
  simp only [Engine.recording, Act.within, known.recorder]
  exact ⟨rfl, rfl, rfl, { known with recorder := rfl }⟩

/-- Taking in a captured frame. The same frame comes out. -/
theorem capture (known : first.SameMemory second) (supported : first.format.Supported)
    (frame : Frame) :
    SameEnd (first.capture frame).1 (second.capture frame).1 ∧
      (first.capture frame).2 = (second.capture frame).2 := by
  have recorded := known.recording (Trace.Recorder.recordFrame .captured frame)
  simp only [Engine.capture, ← known.format, ← known.frameFault, ← recorded.result]
  split
  case h_1 => exact ⟨⟨rfl, rfl, rfl, known⟩, rfl⟩
  case h_2 matching =>
    split
    case h_1 => exact ⟨recorded, rfl⟩
    case h_2 =>
      obtain ⟨same, final⟩ := recorded.state.process supported matching
      exact ⟨{ same with notices := by rw [recorded.notices, same.notices] }, final⟩

/-- Letting the stages see a frame to the loudspeaker. -/
theorem observe (known : first.SameMemory second) (frame : Frame) :
    SameEnd (observe first frame) (observe second frame) := by
  have loaded := (known.rendering.load frame).splitChannels
  simp only [Engine.observe, known.rack, known.id, known.delay,
    RenderStage.runEach_agree loaded RenderStage.order second.rack]
  split
  · exact ⟨rfl, rfl, rfl, rfl, known.format, rfl, known.capturing, loaded.toSameMemory, rfl,
      known.recorder⟩
  · exact ⟨rfl, rfl, rfl, rfl, known.format, rfl, known.capturing, loaded.toSameMemory, rfl,
      known.recorder⟩

/-- Taking in a frame to the loudspeaker. -/
theorem render (known : first.SameMemory second) (frame : Frame) :
    SameEnd (render frame first) (render frame second) := by
  have recorded := known.recording (Trace.Recorder.recordFrame .rendered frame)
  simp only [Engine.render, ← known.format, ← known.frameFault, ← recorded.result]
  split
  · exact ⟨rfl, rfl, rfl, known⟩
  · split
    · exact recorded
    · have observed := recorded.state.observe frame
      exact { observed with notices := by rw [recorded.notices, observed.notices] }

/-- Starting anew. -/
theorem restart (known : first.SameMemory second) :
    SameEnd (restart first) (restart second) := by
  simp only [Engine.restart, known.rack, known.id, known.delay, known.format, known.recorder]
  split
  · exact ⟨rfl, rfl, rfl, refl _⟩
  · exact ⟨rfl, rfl, rfl, refl _⟩

/-- Changing the format. -/
theorem reconfigure (known : first.SameMemory second)
    (change : Format → Except FormatError Format) :
    SameEnd (reconfigure change first) (reconfigure change second) := by
  simp only [Engine.reconfigure, known.format]
  cases change second.format with
  | error cause => exact ⟨rfl, rfl, rfl, known⟩
  | ok format => exact restart { known with format := rfl }

/-- Switching an effect. -/
theorem enable (known : first.SameMemory second) (kind : EffectKind) (enabled : Bool) :
    SameEnd (enable kind enabled first) (enable kind enabled second) := by
  simp only [Engine.enable, known.rack, known.format, known.id]
  split
  · exact ⟨rfl, rfl, rfl, known⟩
  split
  · split
    · exact ⟨rfl, rfl, rfl, { known with id := rfl, format := rfl, rack := rfl }⟩
    · exact ⟨rfl, rfl, rfl, { known with id := rfl, format := rfl, rack := rfl }⟩
  · exact ⟨rfl, rfl, rfl, { known with id := rfl, format := rfl, rack := rfl }⟩

/-- Handing a value to an effect. -/
theorem adjust (known : first.SameMemory second) (setting : Setting) :
    SameEnd (adjust setting first) (adjust setting second) := by
  simp only [Engine.adjust, known.rack]
  split
  · exact ⟨rfl, rfl, rfl, { known with rack := rfl }⟩
  · exact ⟨rfl, rfl, rfl, known⟩

/-- Reporting a delay. -/
theorem reportDelay (known : first.SameMemory second) (ms : Int) :
    SameEnd (reportDelay ms first) (reportDelay ms second) := by
  simp only [Engine.reportDelay, known.delay, known.id]
  split <;> exact ⟨rfl, rfl, rfl, { known with id := rfl, delay := rfl }⟩

/-- Reading the level of the captured stream. -/
theorem takeCapturedLevel (known : first.SameMemory second) :
    SameEnd (takeCapturedLevel first) (takeCapturedLevel second) := by
  simp only [Engine.takeCapturedLevel, known.rack]
  exact ⟨rfl, rfl, rfl, { known with rack := rfl }⟩

/-- Reading the level of the stream to the loudspeaker. -/
theorem takeRenderedLevel (known : first.SameMemory second) :
    SameEnd (takeRenderedLevel first) (takeRenderedLevel second) := by
  simp only [Engine.takeRenderedLevel, known.rack]
  exact ⟨rfl, rfl, rfl, { known with rack := rfl }⟩

/-- No call tells engines with the same memory apart. -/
theorem perform (known : first.SameMemory second) (supported : first.format.Supported)
    (call : Call) : SameEnd (first.perform call) (second.perform call) := by
  cases call with
  | restart => exact known.restart.replying _
  | setRate hz => exact (known.reconfigure _).replying _
  | setChannels input output => exact (known.reconfigure _).replying _
  | setReverseChannels channels => exact (known.reconfigure _).replying _
  | enable kind enabled => exact (known.enable kind enabled).replying _
  | adjust setting => exact (known.adjust setting).replying _
  | reportDelay ms => exact (known.reportDelay ms).replying _
  | changeId id =>
    simp only [Engine.perform, changeId, known.id]
    exact ⟨rfl, rfl, rfl, { known with id := rfl }⟩
  | capture frame =>
    obtain ⟨same, final⟩ := known.capture supported frame
    simp only [Engine.perform, final]
    exact same.replying _
  | render frame => exact (known.render frame).replying _
  | takeCapturedLevel => exact known.takeCapturedLevel.replying _
  | takeRenderedLevel => exact known.takeRenderedLevel.replying _
  | record sink =>
    simp only [Engine.perform, record, known.format]
    exact (known.recording _).replying _
  | recordFile path opened =>
    simp only [Engine.perform, recordFile, known.format]
    exact (known.recording _).replying _
  | stopRecording => exact (known.recording Trace.Recorder.stop).replying _

/-- No sequence of calls tells engines with the same memory apart. -/
theorem run (known : first.SameMemory second) (stored : first.Stored) (calls : List Call)
    (wellFormed : ∀ call ∈ calls, call.WellFormed) :
    (first.run calls).1 = (second.run calls).1 ∧
      (first.run calls).2.SameMemory (second.run calls).2 := by
  induction calls generalizing first second with
  | nil => exact ⟨rfl, known⟩
  | cons call calls inductionHypothesis =>
    have same := known.perform stored.supported call
    obtain ⟨answers, final⟩ := inductionHypothesis same.state
      (stored.perform (wellFormed call List.mem_cons_self))
      fun later member => wellFormed later (List.mem_cons_of_mem call member)
    simp only [Engine.run, same.result, answers]
    exact ⟨trivial, final⟩

end SameMemory

end Engine

namespace StreamBuffer

variable {buffer : StreamBuffer}

/-- Writing a low band changes no snapshot. -/
@[simp] theorem snapshot?_setLowBand (buffer : StreamBuffer) (channel : Nat)
    (samples : List Sample) : (buffer.setLowBand channel samples).snapshot? = buffer.snapshot? := by
  unfold setLowBand
  split <;> rfl

/-- Changing a high band changes no snapshot. -/
@[simp] theorem snapshot?_mapHighBand (buffer : StreamBuffer) (channel : Nat)
    (change : List Sample → List Sample) :
    (buffer.mapHighBand channel change).snapshot? = buffer.snapshot? := by
  unfold mapHighBand
  split <;> rfl

/-- A snapshot of a channel in use is its low band. -/
theorem snapshot?_takeSnapshot {channel : Nat} (inside : channel < buffer.channelCount) :
    buffer.takeSnapshot.snapshot? channel = some (buffer.lowBand channel) := by
  have present : channel < buffer.lowBands.length := by simpa [lowBands, used] using inside
  simp only [snapshot?, takeSnapshot, if_true, List.getD_eq_getElem?_getD]
  rw [List.getElem?_append_left present, lowBands, used, List.getElem?_map,
    List.getElem?_range inside]
  rfl

/-- A walk changes no snapshot if its steps change none. -/
theorem snapshot?_walk {Effect : Type} {step : Effect × StreamBuffer → Nat → Effect × StreamBuffer}
    (kept : ∀ state channel, (step state channel).2.snapshot? = state.2.snapshot?)
    (channels : List Nat) (state : Effect × StreamBuffer) :
    (channels.foldl step state).2.snapshot? = state.2.snapshot? := by
  refine List.foldlRecOn
    (motive := fun walked : Effect × StreamBuffer => walked.2.snapshot? = state.2.snapshot?)
    channels _ rfl ?_
  intro walked known channel _
  rw [kept, known]

end StreamBuffer

/-- Filtering a channel changes no snapshot. -/
theorem HighPass.snapshot?_filterChannel (state : HighPass × StreamBuffer) (channel : Nat) :
    (filterChannel state channel).2.snapshot? = state.2.snapshot? := by
  simp only [filterChannel]
  split
  · rfl
  · simp

/-- Suppressing the noise of a channel changes no snapshot. -/
theorem NoiseSuppressor.snapshot?_suppressChannel (blockLength : Nat)
    (state : NoiseSuppressor × StreamBuffer) (channel : Nat) :
    (suppressChannel blockLength state channel).2.snapshot? = state.2.snapshot? := by
  simp only [suppressChannel]
  split
  · rfl
  · simp

/-- Cancelling the echo in a channel changes no snapshot. -/
theorem EchoCanceller.snapshot?_cancelChannel (aligned : Aligned)
    (state : EchoCanceller × StreamBuffer) (channel : Nat) :
    (cancelChannel aligned state channel).2.snapshot? = state.2.snapshot? := by
  simp only [cancelChannel]
  split
  · rfl
  · simp

/-- Controlling the echo in a channel changes no snapshot. -/
theorem MobileEchoControl.snapshot?_controlChannel (far : Scalar)
    (state : MobileEchoControl × StreamBuffer) (channel : Nat) :
    (controlChannel far state channel).2.snapshot? = state.2.snapshot? := by
  simp only [controlChannel]
  split
  · rfl
  · simp

/-- Applying the gain to a channel changes no snapshot. -/
theorem GainControl.snapshot?_amplifyChannel (effect : GainControl) (ratio : Scalar)
    (audio : StreamBuffer) (channel : Nat) :
    (effect.amplifyChannel ratio audio channel).snapshot? = audio.snapshot? := by
  simp [amplifyChannel, StreamBuffer.amplify, StreamBuffer.mapLowBand]

namespace CaptureStage

/-- The other stages change no snapshot. Those that write to the audio do it channel by channel, and
what they do to one channel is a lemma of its own. -/
theorem snapshot?_run_of_ne {stage : CaptureStage} (different : stage ≠ .snapshot)
    (delay : StreamDelay) (rack : Rack) (audio : StreamBuffer) :
    (stage.run delay rack audio).audio.snapshot? = audio.snapshot? := by
  cases stage with
  | snapshot => exact absurd rfl different
  | highPass =>
    simp only [run, HighPass.capture]
    split
    · rfl
    split
    · rfl
    · exact StreamBuffer.snapshot?_walk HighPass.snapshot?_filterChannel _ _
  | echoCanceller =>
    simp only [run, EchoCanceller.capture]
    split
    · rfl
    split
    · rfl
    split
    · exact StreamBuffer.snapshot?_walk (EchoCanceller.snapshot?_cancelChannel _) _ _
    · rfl
  | noiseSuppressor =>
    simp only [run, NoiseSuppressor.capture]
    split
    · rfl
    split
    · rfl
    · exact StreamBuffer.snapshot?_walk (NoiseSuppressor.snapshot?_suppressChannel _) _ _
  | mobileEchoControl =>
    simp only [run, MobileEchoControl.capture]
    split
    · rfl
    split
    · rfl
    split
    · exact StreamBuffer.snapshot?_walk (MobileEchoControl.snapshot?_controlChannel _) _ _
    · rfl
  | applyGain =>
    simp only [run, GainControl.capture]
    split
    · rfl
    split
    · rfl
    · refine List.foldlRecOn
        (motive := fun amplified : StreamBuffer => amplified.snapshot? = audio.snapshot?)
        audio.used _ rfl ?_
      intro amplified known channel _
      rw [GainControl.snapshot?_amplifyChannel, known]
  | measureGain | voiceDetector | levelMeter => rfl

/-- Neither do all of them. -/
theorem snapshot?_runEach (stages : List CaptureStage) (elsewhere : .snapshot ∉ stages)
    (delay : StreamDelay) (rack : Rack) (audio : StreamBuffer) :
    (runEach delay stages rack audio).2.2.snapshot? = audio.snapshot? := by
  induction stages generalizing rack audio with
  | nil => rfl
  | cons stage stages inductionHypothesis =>
    rw [List.mem_cons, not_or] at elsewhere
    have first := snapshot?_run_of_ne (Ne.symm elsewhere.1) delay rack audio
    simp only [runEach]
    cases (stage.run delay rack audio).fault with
    | none => exact (inductionHypothesis elsewhere.2 _ _).trans first
    | some fault => exact first

/-- Stages that pass in a row are stages that pass and then others that pass. -/
theorem passes_append {delay : StreamDelay} {stages others : List CaptureStage} {rack final : Rack}
    {audio left : StreamBuffer}
    (passed : runEach delay (stages ++ others) rack audio = (none, final, left)) :
    ∃ between heard, runEach delay stages rack audio = (none, between, heard) ∧
      runEach delay others between heard = (none, final, left) := by
  rw [runEach_append] at passed
  rcases outcome : runEach delay stages rack audio with ⟨failure, between, heard⟩
  rw [outcome] at passed
  cases failure with
  | none => exact ⟨between, heard, rfl, passed⟩
  | some failure => cases passed

end CaptureStage

namespace Engine

/-- A frame that was just loaded has no snapshot. -/
theorem snapshot?_loadCaptured (engine : Engine) (frame : Frame) (channel : Nat) :
    (engine.loadCaptured frame).snapshot? channel = none := by
  have taken : (engine.loadCaptured frame).snapshotTaken = false := by
    simp only [loadCaptured]
    rw [(StreamBuffer.splitChannels_spec _ _).2]
    split
    case isTrue =>
      simp only [StreamBuffer.mixDown]
      split <;> rfl
    case isFalse => rfl
  simp [StreamBuffer.snapshot?, taken]

/-- What mobile echo control finds as the snapshot of a channel is the low band that noise
suppression found there in the same frame, and there is one exactly when both effects are on. The
order is cut at the two stages. Before the first no snapshot is taken, and between the two only
noise suppression runs, which leaves it. -/
theorem Reaches.snapshot {engine : Engine} {frame : Frame} {rack : Rack} {audio : StreamBuffer}
    (reaches : engine.Reaches frame .mobileEchoControl rack audio) :
    ∃ sooner before, engine.Reaches frame .noiseSuppressor sooner before ∧
      ∀ channel < audio.channelCount, audio.snapshot? channel =
        if engine.rack.mobileEchoControl.enabled ∧ engine.rack.noiseSuppressor.enabled then
          some (before.lowBand channel)
        else none := by
  have parts : CaptureStage.order.takeWhile (· ≠ .mobileEchoControl) =
      (CaptureStage.order.takeWhile (· ≠ .snapshot) ++ [.snapshot]) ++ [.noiseSuppressor] := by
    decide
  have sooner : CaptureStage.order.takeWhile (· ≠ .noiseSuppressor) =
      CaptureStage.order.takeWhile (· ≠ .snapshot) ++ [.snapshot] := by
    decide
  have passed := reaches.passed
  rw [parts] at passed
  obtain ⟨rackBefore, before, early, last⟩ := CaptureStage.passes_append passed
  refine ⟨rackBefore, before, ⟨reaches.matching, reaches.recorded, by rw [sooner]; exact early⟩, ?_⟩
  obtain ⟨first, heard, loaded, taking⟩ := CaptureStage.passes_append early
  intro channel inside
  have kept := CaptureStage.snapshot?_runEach [.noiseSuppressor] (by decide) engine.delay rackBefore
    before
  have count := (CaptureStage.runEach_alike engine.delay rackBefore before
    [.noiseSuppressor]).2.channelCount
  have nothing := CaptureStage.snapshot?_runEach (CaptureStage.order.takeWhile (· ≠ .snapshot))
    (by decide) engine.delay engine.rack (engine.loadCaptured frame)
  have enabled := (CaptureStage.runEach_alike engine.delay engine.rack (engine.loadCaptured frame)
    (CaptureStage.order.takeWhile (· ≠ .snapshot))).1.enabled
  rw [last] at kept count
  rw [loaded] at nothing enabled
  have mobile : first.mobileEchoControl.enabled = engine.rack.mobileEchoControl.enabled :=
    enabled .mobileEchoControl
  have noise : first.noiseSuppressor.enabled = engine.rack.noiseSuppressor.enabled :=
    enabled .noiseSuppressor
  simp only [CaptureStage.runEach, CaptureStage.run, mobile, noise] at taking
  rw [kept]
  by_cases both : engine.rack.mobileEchoControl.enabled ∧ engine.rack.noiseSuppressor.enabled
  · rw [if_pos both] at taking ⊢
    obtain ⟨-, -, rfl⟩ := taking
    exact StreamBuffer.snapshot?_takeSnapshot (count ▸ inside)
  · rw [if_neg both] at taking ⊢
    obtain ⟨-, -, rfl⟩ := taking
    exact (congrFun nothing channel).trans (snapshot?_loadCaptured engine frame channel)

/-- No sample outlives its frame.

Take two engines with the same memory, one of them reachable: they agree in everything but the
samples in their storage, how many channels are in use there and whether a snapshot was taken. Both
end every call with a frame, captured or to the loudspeaker, in the same way, give back the same
frame, and have the same memory afterwards, so that no run of calls tells them apart.

Wherever the walk of mobile echo control over the channels of a frame has come, what it finds as the
snapshot of a channel is the low band that noise suppression found there in the same frame. It finds
one exactly when both effects are on now, whatever was on in earlier frames. -/
theorem frames_begin_afresh {first second : Engine} (reachable : first.Reachable)
    (known : first.SameMemory second) :
    (∀ frame, SameEnd (first.capture frame).1 (second.capture frame).1 ∧
      (first.capture frame).2 = (second.capture frame).2) ∧
    (∀ frame, SameEnd (render frame first) (render frame second)) ∧
    (∀ calls, (∀ call ∈ calls, call.WellFormed) →
      (first.run calls).1 = (second.run calls).1 ∧
        (first.run calls).2.SameMemory (second.run calls).2) ∧
    ∀ frame rack audio, first.Reaches frame .mobileEchoControl rack audio →
      ∃ sooner before, first.Reaches frame .noiseSuppressor sooner before ∧
        ∀ channel < audio.channelCount, ∀ far (walked : List Nat),
          (walked.foldl (MobileEchoControl.controlChannel far)
            (rack.mobileEchoControl, audio)).2.snapshot? channel =
          if first.rack.mobileEchoControl.enabled ∧ first.rack.noiseSuppressor.enabled then
            some (before.lowBand channel)
          else none := by
  have stored := reachable.stored
  refine ⟨known.capture stored.supported, known.render, known.run stored, ?_⟩
  intro frame rack audio reaches
  obtain ⟨sooner, before, earlier, snapshot⟩ := reaches.snapshot
  refine ⟨sooner, before, earlier, fun channel inside far walked => ?_⟩
  rw [StreamBuffer.snapshot?_walk (MobileEchoControl.snapshot?_controlChannel far)]
  exact snapshot channel inside

/-- An engine for which noise suppression and mobile echo control just went on. -/
def quietStart : Engine :=
  ((blank 0 {}).run [.enable .noiseSuppressor true, .enable .mobileEchoControl true]).2

/-- The calls that lead there after a loud frame, of which a snapshot was taken before mobile echo
control refused it for want of a delay. -/
def loudStartCalls : List Call :=
  [.enable .noiseSuppressor true, .enable .mobileEchoControl true,
    .capture { rate := 16000, channelCount := 1, length := 160, data := List.replicate 160 30000 },
    .enable .noiseSuppressor false, .enable .noiseSuppressor true]

/-- The engine that these calls lead to. -/
def loudStart : Engine := ((blank 0 {}).run loudStartCalls).2

/-- Both have the same memory. -/
theorem sameMemory_loudStart : loudStart.SameMemory quietStart where
  id := rfl
  format := rfl
  delay := rfl
  capturing := ⟨rfl, rfl, rfl⟩
  rendering := ⟨rfl, rfl, rfl⟩
  rack := rfl
  recorder := rfl

/-- A silent frame comes as far as mobile echo control in the engine that heard the loud one. -/
theorem reaches_loudStart : ∃ rack audio, audio.channelCount = 1 ∧
    loudStart.Reaches (.silent 16000 1 160) .mobileEchoControl rack audio :=
  ⟨_, _, rfl, rfl, rfl, Prod.ext rfl rfl⟩

/-- A snapshot of the loud frame is at hand in one of them and none in the other. The next frame is
captured alike, also once a delay is reported, and mobile echo control finds the snapshot that was
taken of it. -/
theorem frames_begin_afresh_loudStart :
    quietStart.capturing.snapshotTaken = false ∧ loudStart.capturing.snapshotTaken = true ∧
      SameEnd (loudStart.capture (.silent 16000 1 160)).1
        (quietStart.capture (.silent 16000 1 160)).1 ∧
      (loudStart.run [.reportDelay 0, .capture (.silent 16000 1 160)]).1 =
        (quietStart.run [.reportDelay 0, .capture (.silent 16000 1 160)]).1 ∧
      ∃ rack audio sooner before,
        loudStart.Reaches (.silent 16000 1 160) .mobileEchoControl rack audio ∧
        loudStart.Reaches (.silent 16000 1 160) .noiseSuppressor sooner before ∧
        audio.snapshot? 0 = some (before.lowBand 0) := by
  have reachable : loudStart.Reachable := by
    refine ⟨{}, loudStartCalls, blank 0 {}, rfl, ?_, rfl⟩
    simp only [loudStartCalls, List.forall_mem_cons, Call.WellFormed, Frame.WellFormed,
      List.length_replicate]
    simp
  obtain ⟨captured, -, ran, snapshots⟩ := frames_begin_afresh reachable sameMemory_loudStart
  obtain ⟨rack, audio, single, reaches⟩ := reaches_loudStart
  obtain ⟨sooner, before, earlier, snapshot⟩ := snapshots _ rack audio reaches
  have taken := snapshot 0 (by rw [single]; exact Nat.one_pos) 0.0 []
  rw [if_pos ⟨rfl, rfl⟩] at taken
  exact ⟨rfl, rfl, (captured (.silent 16000 1 160)).1,
    (ran _ (by simp [Call.WellFormed, Frame.wellFormed_silent])).1,
    rack, audio, sooner, before, reaches, earlier, taken⟩

end Engine

end VoiceEngine
