import VoiceEngine.Proofs.Bounds
import VoiceEngine.Proofs.Erasure
import VoiceEngine.Proofs.Receipts
import VoiceEngine.Proofs.StageReports
import VoiceEngine.Proofs.Staleness

/-!
# Reports in force

The stream delay, the clock drift and the device volume are reported for a frame at hand. A flag
goes up with every report and goes down when the report has served: for the delay at the end of a
frame to the loudspeaker, for the drift in the middle of a captured frame and for the volume at its
end, and for two of them also when the engine or the effect starts anew. Calls that fail may have
failed before or behind these places.

Still each flag says the same of the run that led to it: a report is in force when no later call
has ended it. `inForce_of_steps` carries this from one call to a run; what is left is to say for
every flag which calls raise it and which lower it.
-/

namespace VoiceEngine

/-- A call of a run, and the engine that it was made on. -/
structure Moment where
  engine : Engine
  call : Call

/-- Some call made a report, and no call after it ended the report. -/
def InForce (Reports Ends : Engine → Call → Prop) (moments : List Moment) : Prop :=
  ∃ before reporting after, moments = before ++ reporting :: after ∧
    Reports reporting.engine reporting.call ∧ ∀ later ∈ after, ¬ Ends later.engine later.call

/-- No report is in force where nothing happened. -/
theorem not_inForce_nil (Reports Ends : Engine → Call → Prop) : ¬ InForce Reports Ends [] := by
  rintro ⟨before, reporting, after, cut, -⟩
  simp at cut

/-- A report is in force when it is in force without the first call, or was made by that call and
not ended by the others. -/
theorem inForce_cons {Reports Ends : Engine → Call → Prop} {first : Moment}
    {moments : List Moment} :
    InForce Reports Ends (first :: moments) ↔ InForce Reports Ends moments ∨
      Reports first.engine first.call ∧ ∀ later ∈ moments, ¬ Ends later.engine later.call := by
  constructor
  · rintro ⟨before, reporting, after, cut, made, kept⟩
    cases before with
    | nil =>
      cases cut
      exact .inr ⟨made, kept⟩
    | cons head before =>
      cases cut
      exact .inl ⟨before, reporting, after, rfl, made, kept⟩
  · rintro (⟨before, reporting, after, rfl, made, kept⟩ | ⟨made, kept⟩)
    · exact ⟨first :: before, reporting, after, rfl, made, kept⟩
    · exact ⟨[], first, moments, rfl, made, kept⟩

namespace Engine

/-- The calls of a run in their order, each with the engine that it was made on. -/
def moments (engine : Engine) : List Call → List Moment
  | [] => []
  | call :: calls => ⟨engine, call⟩ :: (engine.perform call).state.moments calls

/-- A flag that reporting calls raise and that stays up until a call ends the report is up after a
run when a report is in force, or when it was up at the start and no call ended that. What every
call does to the flag may depend on something known of the engine, if every call of the run keeps
this known. -/
theorem inForce_of_known_steps (Known : Engine → Prop) (Allowed : Call → Prop)
    (Flag : Engine → Prop) (Reports Ends : Engine → Call → Prop)
    (kept : ∀ engine call, Allowed call → Known engine → Known (engine.perform call).state)
    (step : ∀ engine call, Known engine → (Flag (engine.perform call).state ↔
      Reports engine call ∨ Flag engine ∧ ¬ Ends engine call))
    (engine : Engine) (calls : List Call) (allowed : ∀ call ∈ calls, Allowed call)
    (known : Known engine) :
    Flag (engine.run calls).2 ↔ InForce Reports Ends (engine.moments calls) ∨
      Flag engine ∧ ∀ moment ∈ engine.moments calls, ¬ Ends moment.engine moment.call := by
  induction calls generalizing engine with
  | nil =>
    have nothing := not_inForce_nil Reports Ends
    simp [run, moments, nothing]
  | cons call calls inductionHypothesis =>
    obtain ⟨allowedFirst, allowedLater⟩ := List.forall_mem_cons.mp allowed
    rw [state_run_cons,
      inductionHypothesis _ allowedLater (kept engine call allowedFirst known),
      step engine call known, moments, inForce_cons, List.forall_mem_cons]
    dsimp only
    rw [or_assoc, or_and_right, and_assoc]

/-- The same of a flag for which nothing has to be known of the engine. -/
theorem inForce_of_steps (Flag : Engine → Prop) (Reports Ends : Engine → Call → Prop)
    (step : ∀ engine call, Flag (engine.perform call).state ↔
      Reports engine call ∨ Flag engine ∧ ¬ Ends engine call)
    (engine : Engine) (calls : List Call) :
    Flag (engine.run calls).2 ↔ InForce Reports Ends (engine.moments calls) ∨
      Flag engine ∧ ∀ moment ∈ engine.moments calls, ¬ Ends moment.engine moment.call :=
  inForce_of_known_steps (fun _ => True) (fun _ => True) Flag Reports Ends
    (fun _ _ _ _ => trivial) (fun engine call _ => step engine call) engine calls
    (fun _ _ => trivial) trivial

end Engine

namespace Engine

variable {engine : Engine} {call : Call} {format : Format}

/-- Processing a frame leaves the rack as the stages do, and the delay alone. -/
theorem rack_process (engine : Engine) (frame : Frame) :
    (engine.process frame).1.state.rack = (CaptureStage.runEach engine.delay CaptureStage.order
        engine.rack (engine.loadCaptured frame)).2.1 ∧
      (engine.process frame).1.state.delay = engine.delay := by
  simp only [process]
  split
  case h_1 outcome => rw [outcome]; exact ⟨rfl, rfl⟩
  case h_2 outcome => rw [outcome]; exact ⟨rfl, rfl⟩

/-- Observing a frame leaves the rack as the stages do. -/
theorem rack_observe (engine : Engine) (frame : Frame) :
    (observe engine frame).state.rack = (RenderStage.runEach
      ((engine.rendering.load frame).splitChannels frame.channelCount) RenderStage.order
      engine.rack).2 := by
  simp only [observe]
  split
  case h_1 outcome => rw [outcome]
  case h_2 outcome => rw [outcome]

/-- Processing a frame succeeds when no stage fails. -/
theorem process_ok_iff_runEach (engine : Engine) (frame : Frame) :
    (engine.process frame).1.result = .ok () ↔ (CaptureStage.runEach engine.delay
      CaptureStage.order engine.rack (engine.loadCaptured frame)).1 = none := by
  simp only [process]
  split
  case h_1 outcome => simp [outcome]
  case h_2 outcome => simp [outcome]

/-- Observing a frame uses neither the drift nor the volume up, and ends the report of the delay
when it succeeds. -/
theorem reports_observe (engine : Engine) (frame : Frame) :
    (observe engine frame).state.rack.echoCanceller.driftIsSet =
        engine.rack.echoCanceller.driftIsSet ∧
      (observe engine frame).state.rack.gainControl.volumeIsSet =
        engine.rack.gainControl.volumeIsSet ∧
      ((observe engine frame).state.delay.isSet = true ↔
        engine.delay.isSet = true ∧ ¬ (observe engine frame).result = .ok ()) := by
  have kept := RenderStage.reports_runEach
    ((engine.rendering.load frame).splitChannels frame.channelCount) RenderStage.order engine.rack
  rw [← rack_observe] at kept
  refine ⟨kept.1, kept.2, ?_⟩
  simp only [observe]
  split
  · simp
  · simp [StreamDelay.forget]

/-- A captured frame got past the checks of the echo canceller: it matched the format and was
recorded, the stages before the canceller passed it, and the canceller was on and lacked neither
the delay nor a drift that it compensates. -/
structure PassesEchoChecks (engine : Engine) (frame : Frame) : Prop where
  matching : engine.frameFault engine.format.inputChannels frame = none
  recorded : (recording (Trace.Recorder.recordFrame .captured frame) engine).result = .ok ()
  arrives : (CaptureStage.runEach engine.delay CaptureStage.beforeEchoCanceller engine.rack
    (engine.loadCaptured frame)).1 = none
  enabled : engine.rack.echoCanceller.enabled = true
  complete : engine.rack.echoCanceller.lacksParameter engine.delay = false

/-- A captured frame went through, with a gain control that was on and recommended volumes. -/
structure UsesVolume (engine : Engine) (frame : Frame) : Prop where
  answered : (engine.capture frame).1.result = .ok ()
  enabled : engine.rack.gainControl.enabled = true
  analog : engine.rack.gainControl.mode = .adaptiveAnalog

/-- A captured frame uses the drift up when it gets past the checks of the echo canceller,
whether or not it is refused behind them, and it uses the volume up when it goes through a gain
control that needs one. -/
theorem reports_capture (engine : Engine) (frame : Frame) :
    (engine.capture frame).1.state.delay = engine.delay ∧
      ((engine.capture frame).1.state.rack.echoCanceller.driftIsSet = true ↔
        engine.rack.echoCanceller.driftIsSet = true ∧ ¬ engine.PassesEchoChecks frame) ∧
      ((engine.capture frame).1.state.rack.gainControl.volumeIsSet = true ↔
        engine.rack.gainControl.volumeIsSet = true ∧ ¬ engine.UsesVolume frame) := by
  rcases capture_cases engine frame with ⟨fault, mismatch, result, state, -⟩ |
    ⟨fault, recorder, matching, lost, result, state, -⟩ |
    ⟨recorder, matching, recorded, result, state, -⟩
  · have unchecked : ¬ engine.PassesEchoChecks frame := fun passes => by
      rw [passes.matching] at mismatch
      cases mismatch
    have unused : ¬ engine.UsesVolume frame := fun uses => by
      rw [uses.answered] at result
      cases result
    simp [state, unchecked, unused]
  · have unchecked : ¬ engine.PassesEchoChecks frame := fun passes => by
      rw [passes.recorded] at lost
      cases lost
    have unused : ¬ engine.UsesVolume frame := fun uses => by
      rw [uses.answered] at result
      cases result
    simp [state, unchecked, unused]
  · obtain ⟨rack, delay⟩ := rack_process { engine with recorder } frame
    have passed := process_ok_iff_runEach { engine with recorder } frame
    rw [← result] at passed
    have checked : engine.PassesEchoChecks frame ↔
        (CaptureStage.runEach engine.delay CaptureStage.beforeEchoCanceller engine.rack
          (engine.loadCaptured frame)).1 = none ∧ engine.rack.echoCanceller.enabled = true ∧
          engine.rack.echoCanceller.lacksParameter engine.delay = false :=
      ⟨fun passes => ⟨passes.arrives, passes.enabled, passes.complete⟩,
        fun ⟨arrives, enabled, complete⟩ => ⟨matching, recorded, arrives, enabled, complete⟩⟩
    have used : engine.UsesVolume frame ↔
        (CaptureStage.runEach engine.delay CaptureStage.order engine.rack
          (engine.loadCaptured frame)).1 = none ∧ engine.rack.gainControl.enabled = true ∧
          engine.rack.gainControl.mode = .adaptiveAnalog :=
      ⟨fun uses => ⟨passed.mp uses.answered, uses.enabled, uses.analog⟩,
        fun ⟨silent, enabled, analog⟩ => ⟨passed.mpr silent, enabled, analog⟩⟩
    rw [state, rack, delay, checked, used]
    exact ⟨rfl,
      CaptureStage.driftIsSet_runEach engine.delay engine.rack (engine.loadCaptured frame),
      CaptureStage.volumeIsSet_runEach engine.delay engine.rack (engine.loadCaptured frame)⟩

/-- A call starts the engine anew with a format that was accepted, whether or not an effect then
refuses that format. -/
def StartsAnew (engine : Engine) (call : Call) : Prop :=
  ∃ format, call.target? engine.format = some (.ok format)

/-- The echo canceller is prepared when the engine starts anew while it is on, also when another
effect then refuses, and when it goes on itself. -/
theorem prepares_echoCanceller_iff : engine.prepares call .echoCanceller = true ↔
    engine.rack.echoCanceller.enabled = true ∧ engine.StartsAnew call ∨
      engine.rack.echoCanceller.enabled = false ∧ call = .enable .echoCanceller true ∧
        (engine.perform call).result.isOk = true := by
  have first (format : Format) : .echoCanceller ∈ Rack.preparedBy EffectKind.all
      (engine.rack.prepareEach format EffectKind.all).1 := by
    rw [Rack.prepareEach_all]
    split <;> simp [Rack.preparedBy, EffectKind.all]
  simp only [prepares, StartsAnew]
  cases change : call.target? engine.format with
  | some attempt =>
    have other : call ≠ .enable .echoCanceller true := by
      rintro rfl
      cases change
    cases attempt with
    | ok format => simp [first, other, Rack.isEnabled]
    | error cause => simp [other]
  | none =>
    cases call with
    | enable kind enabled =>
      cases enabled with
      | true =>
        simp only [Rack.isEnabled]
        simp [and_assoc, and_left_comm]
      | false => simp
    | _ => simp

/-- Starting anew ends the report of the delay, and that of the drift when the echo canceller is
on. -/
theorem reports_restart (engine : Engine) :
    (restart engine).state.delay.isSet = false ∧
      ((restart engine).state.rack.echoCanceller.driftIsSet = true ↔
        engine.rack.echoCanceller.driftIsSet = true ∧ ¬ engine.rack.echoCanceller.enabled = true) ∧
      (restart engine).state.rack.gainControl.volumeIsSet =
        engine.rack.gainControl.volumeIsSet := by
  have settings := Rack.settings_prepareEach engine.rack engine.format EffectKind.all
  have canceller : (engine.rack.prepareEach engine.format EffectKind.all).2.echoCanceller =
      engine.rack.echoCanceller.prepare engine.format := by
    rw [Rack.prepareEach_all]
    split <;> rfl
  rw [restart_state]
  refine ⟨rfl, ?_, (congrArg (fun rack => rack.gainControl.volumeIsSet) settings :)⟩
  dsimp only
  rw [canceller, EchoCanceller.prepare]
  cases engine.rack.echoCanceller.enabled <;> simp

/-- Switching an effect only switches, as far as reports go. -/
theorem reports_switch (rack : Rack) (enabled : Bool) (kind : EffectKind) :
    (rack.switch enabled kind).echoCanceller.driftIsSet = rack.echoCanceller.driftIsSet ∧
      (rack.switch enabled kind).gainControl.volumeIsSet = rack.gainControl.volumeIsSet := by
  cases kind <;> exact ⟨rfl, rfl⟩

/-- Switching an effect ends the report of the drift when it prepares the echo canceller. Preparing
keeps settings, and the report of the volume is one of them; that of the drift is not. -/
theorem reports_enable (engine : Engine) (kind : EffectKind) (enabled : Bool) :
    (enable kind enabled engine).state.delay = engine.delay ∧
      ((enable kind enabled engine).state.rack.echoCanceller.driftIsSet = true ↔
        engine.rack.echoCanceller.driftIsSet = true ∧
          ¬ engine.prepares (.enable kind enabled) .echoCanceller = true) ∧
      (enable kind enabled engine).state.rack.gainControl.volumeIsSet =
        engine.rack.gainControl.volumeIsSet := by
  have switched := reports_switch engine.rack enabled kind
  rcases engine.enable_prepares_cases kind enabled with ⟨state, unprepared⟩ |
    ⟨rack, rfl, off, prepared, state, prepares⟩ | ⟨-, state, unprepared⟩
  · rw [state, unprepared]
    exact ⟨rfl, by simp, rfl⟩
  · have settings := Rack.settings_prepare prepared
    have volume : rack.gainControl.volumeIsSet =
        (engine.rack.switch true kind).gainControl.volumeIsSet :=
      (congrArg (fun rack => rack.gainControl.volumeIsSet) settings :)
    rw [state, prepares]
    refine ⟨rfl, ?_, volume.trans switched.2⟩
    by_cases canceller : kind = .echoCanceller
    · subst canceller
      cases prepared
      simp [EchoCanceller.prepare, Rack.switch]
    · have same := Rack.echoCanceller_prepare_of_ne prepared canceller
      dsimp only
      rw [same, switched.1]
      simp [canceller]
  · rw [state, unprepared]
    refine ⟨rfl, ?_, switched.2⟩
    dsimp only
    rw [switched.1]
    simp

/-- A value that an effect takes is a report of the drift, or of the volume, or of neither. Each of
the two flags belongs to one effect, so a setting of another effect is no report of it. -/
theorem reports_taken {rack next : Rack} {setting : Setting}
    (taken : rack.adjust setting = .ok next) :
    (next.echoCanceller.driftIsSet = true ↔
        (∃ samples, setting = .drift samples) ∨ rack.echoCanceller.driftIsSet = true) ∧
      (next.gainControl.volumeIsSet = true ↔
        (∃ volume, setting = .volume volume) ∨ rack.gainControl.volumeIsSet = true) := by
  have no_drift (elsewhere : ∀ setter, setting.tuning ≠ .echoCanceller setter) :
      rack.echoCanceller.driftIsSet = true ↔
        (∃ samples, setting = .drift samples) ∨ rack.echoCanceller.driftIsSet = true := by
    refine (or_iff_right ?_).symm
    rintro ⟨samples, rfl⟩
    exact elsewhere _ rfl
  have no_volume (elsewhere : ∀ setter, setting.tuning ≠ .gainControl setter) :
      rack.gainControl.volumeIsSet = true ↔
        (∃ volume, setting = .volume volume) ∨ rack.gainControl.volumeIsSet = true := by
    refine (or_iff_right ?_).symm
    rintro ⟨volume, rfl⟩
    exact elsewhere _ rfl
  cases Rack.adjusted taken with
  | echoCanceller setter its =>
    exact ⟨(Setting.tuned_echoCanceller its rack.echoCanceller).drift, no_volume (by simp [its])⟩
  | gainControl setter its =>
    exact ⟨no_drift (by simp [its]), (Setting.tuned_gainControl its rack.gainControl).volume⟩
  | mobileEchoControl setter its | noiseSuppressor setter its | voiceDetector setter its =>
    exact ⟨no_drift (by simp [its]), no_volume (by simp [its])⟩

/-- Handing a value to an effect reports the drift, which is always taken, or the volume when it is
taken, or neither. -/
theorem reports_adjust (engine : Engine) (setting : Setting) :
    (adjust setting engine).state.delay = engine.delay ∧
      ((adjust setting engine).state.rack.echoCanceller.driftIsSet = true ↔
        (∃ samples, setting = .drift samples) ∨ engine.rack.echoCanceller.driftIsSet = true) ∧
      ((adjust setting engine).state.rack.gainControl.volumeIsSet = true ↔
        (∃ volume, setting = .volume volume ∧ (adjust setting engine).result = .ok ()) ∨
          engine.rack.gainControl.volumeIsSet = true) := by
  simp only [adjust]
  cases taken : engine.rack.adjust setting with
  | ok rack =>
    obtain ⟨drift, volume⟩ := reports_taken taken
    exact ⟨rfl, drift, by simpa using volume⟩
  | error fault =>
    have other : ¬ ∃ samples, setting = .drift samples := by
      rintro ⟨samples, rfl⟩
      cases taken
    simp [other]

/-- A frame to the loudspeaker ends the report of the delay when it goes through. -/
theorem reports_render (engine : Engine) (frame : Frame) :
    ((render frame engine).state.delay.isSet = true ↔
        engine.delay.isSet = true ∧ ¬ (render frame engine).result = .ok ()) ∧
      (render frame engine).state.rack.echoCanceller.driftIsSet =
        engine.rack.echoCanceller.driftIsSet ∧
      (render frame engine).state.rack.gainControl.volumeIsSet =
        engine.rack.gainControl.volumeIsSet := by
  rcases render_cases engine frame with ⟨fault, -, result, state⟩ |
    ⟨fault, recorder, -, -, result, state⟩ | ⟨recorder, -, result, state⟩
  · simp [result, state]
  · simp [result, state]
  · obtain ⟨drift, volume, delay⟩ := reports_observe { engine with recorder } frame
    rw [result, state]
    exact ⟨delay, drift, volume⟩

/-- Reporting a delay does nothing else, whatever the report answers. -/
theorem state_reportDelay (engine : Engine) (ms : Int) :
    (engine.perform (.reportDelay ms)).state =
      { engine with delay := engine.delay.report ms } := by
  simp only [perform, reportDelay]
  dsimp only [replying]
  split <;> rfl

/-- A call reports a stream delay, whatever the delay is and whatever the report answers. -/
def ReportsDelay (_ : Engine) (call : Call) : Prop := ∃ ms, call = .reportDelay ms

/-- A call ends the report of the delay: it starts the engine anew, or hands over a frame to the
loudspeaker that goes through. -/
def EndsDelay (engine : Engine) (call : Call) : Prop :=
  engine.StartsAnew call ∨ ∃ frame, call = .render frame ∧ (render frame engine).result = .ok ()

/-- A call reports the clock drift. -/
def ReportsDrift (_ : Engine) (call : Call) : Prop := ∃ samples, call = .adjust (.drift samples)

/-- A call ends the report of the drift: it prepares the echo canceller, or hands over a captured
frame that gets past the checks of the canceller. -/
def EndsDrift (engine : Engine) (call : Call) : Prop :=
  engine.prepares call .echoCanceller = true ∨
    ∃ frame, call = .capture frame ∧ engine.PassesEchoChecks frame

/-- A call reports a device volume that is taken. -/
def ReportsVolume (engine : Engine) (call : Call) : Prop :=
  ∃ volume, call = .adjust (.volume volume) ∧ (adjust (.volume volume) engine).result = .ok ()

/-- A call ends the report of the volume: it hands over a captured frame that uses the volume. -/
def EndsVolume (engine : Engine) (call : Call) : Prop :=
  ∃ frame, call = .capture frame ∧ engine.UsesVolume frame

/-- Every call treats each of the three flags in the same way: the flag is up afterwards when the
call reports, or when it was up and the call does not end the report.

Proof: the calls are taken apart as they start the engine anew, are refused for their target, or
have none. In each case a lemma above says what becomes of the three flags, and what is left is to
see that the call is of a kind that `ReportsDelay` and the others name, or of none of them. -/
theorem reports_perform (engine : Engine) (call : Call) :
    ((engine.perform call).state.delay.isSet = true ↔
        engine.ReportsDelay call ∨ engine.delay.isSet = true ∧ ¬ engine.EndsDelay call) ∧
      ((engine.perform call).state.rack.echoCanceller.driftIsSet = true ↔
        engine.ReportsDrift call ∨
          engine.rack.echoCanceller.driftIsSet = true ∧ ¬ engine.EndsDrift call) ∧
      ((engine.perform call).state.rack.gainControl.volumeIsSet = true ↔
        engine.ReportsVolume call ∨
          engine.rack.gainControl.volumeIsSet = true ∧ ¬ engine.EndsVolume call) := by
  simp only [ReportsDelay, EndsDelay, ReportsDrift, EndsDrift, ReportsVolume, EndsVolume,
    prepares_echoCanceller_iff]
  cases change : call.target? engine.format with
  | some attempt =>
    cases attempt with
    | ok format =>
      have anew : engine.StartsAnew call := ⟨format, change⟩
      obtain ⟨delay, drift, volume⟩ := reports_restart { engine with format }
      have after := congrArg Outcome.state (perform_of_target change)
      rw [replying] at after
      rw [after]
      cases call with
      | restart | setRate | setChannels | setReverseChannels => simp [anew, delay, drift, volume]
      | _ => cases change
    | error cause =>
      have settled : ¬ engine.StartsAnew call := by simp [StartsAnew, change]
      rw [(perform_of_target_error change).2]
      cases call with
      | restart | setRate | setChannels | setReverseChannels => simp [settled]
      | _ => cases change
  | none =>
    have settled : ¬ engine.StartsAnew call := by simp [StartsAnew, change]
    cases call with
    | enable kind enabled =>
      obtain ⟨delay, drift, volume⟩ := reports_enable engine kind enabled
      have state : (engine.perform (.enable kind enabled)).state =
          (enable kind enabled engine).state := rfl
      rw [prepares_echoCanceller_iff] at drift
      rw [state, delay, drift, volume]
      simp [settled]
    | adjust setting =>
      obtain ⟨delay, drift, volume⟩ := reports_adjust engine setting
      have state : (engine.perform (.adjust setting)).state = (adjust setting engine).state := rfl
      rw [state, delay, drift, volume]
      refine ⟨by simp [settled], by simp [settled], ?_⟩
      simp only [Call.adjust.injEq, reduceCtorEq, false_and, exists_false, not_false_eq_true,
        and_true]
      refine or_congr_left (exists_congr fun volume => and_congr_right ?_)
      rintro rfl
      rfl
    | capture frame =>
      obtain ⟨delay, drift, volume⟩ := reports_capture engine frame
      have state : (engine.perform (.capture frame)).state = (engine.capture frame).1.state := rfl
      rw [state, delay, drift, volume]
      simp [settled]
    | render frame =>
      obtain ⟨delay, drift, volume⟩ := reports_render engine frame
      have state : (engine.perform (.render frame)).state = (render frame engine).state := rfl
      rw [state, delay, drift, volume]
      simp [settled]
    | reportDelay ms =>
      rw [state_reportDelay]
      simp [settled, StreamDelay.report]
    | restart => cases change
    | setRate hz => cases change
    | setChannels input output => cases change
    | setReverseChannels channels => cases change
    | _ =>
      -- None of the other calls touches a flag.
      refine ⟨?_, ?_, ?_⟩
      · change engine.delay.isSet = true ↔ _
        simp [settled]
      · change engine.rack.echoCanceller.driftIsSet = true ↔ _
        simp [settled]
      · change engine.rack.gainControl.volumeIsSet = true ↔ _
        simp

end Engine

/-- The delay that a call reports and that is kept, which a negative one is not. -/
def Call.acceptedDelay? : Call → Option Int
  | .reportDelay ms => if 0 ≤ ms then some ms else none
  | _ => none

namespace Engine

/-- A call moves the delay to the one that it reports, within the limit, and no other call touches
it. Starting anew forgets that a delay was reported and keeps the milliseconds. -/
theorem delayMs_perform (engine : Engine) (call : Call) :
    (engine.perform call).state.delay.ms =
      (call.acceptedDelay?.map (min · StreamDelay.limit)).getD engine.delay.ms := by
  cases change : call.target? engine.format with
  | some attempt =>
    cases attempt with
    | ok format =>
      have after := congrArg Outcome.state (perform_of_target change)
      rw [replying, restart_state] at after
      rw [after]
      cases call with
      | restart | setRate | setChannels | setReverseChannels => rfl
      | _ => cases change
    | error cause =>
      rw [(perform_of_target_error change).2]
      cases call with
      | restart | setRate | setChannels | setReverseChannels => rfl
      | _ => cases change
  | none =>
    cases call with
    | enable kind enabled => exact congrArg StreamDelay.ms (reports_enable engine kind enabled).1
    | adjust setting => exact congrArg StreamDelay.ms (reports_adjust engine setting).1
    | capture frame => exact congrArg StreamDelay.ms (reports_capture engine frame).1
    | render frame =>
      have state : (engine.perform (.render frame)).state = (render frame engine).state := rfl
      rw [state]
      rcases render_cases engine frame with ⟨_, -, -, after⟩ | ⟨_, _, -, -, -, after⟩ |
        ⟨recorder, -, -, after⟩
      · rw [after]
        rfl
      · rw [after]
        rfl
      · obtain ⟨rack, delay, observed, -, same⟩ := observe_state { engine with recorder } frame
        rw [after, observed]
        exact same
    | reportDelay ms =>
      rw [state_reportDelay]
      simp only [StreamDelay.report, Call.acceptedDelay?]
      by_cases negative : ms < 0
      · simp [negative, Int.not_le.mpr negative]
      · simp [negative, Int.not_lt.mp negative]
    | restart => cases change
    | setRate hz => cases change
    | setChannels input output => cases change
    | setReverseChannels channels => cases change
    | _ => rfl

/-- After a run the delay is the last one that was reported and kept, within the limit. -/
theorem delayMs_run (engine : Engine) (calls : List Call) :
    (engine.run calls).2.delay.ms =
      ((calls.filterMap Call.acceptedDelay?).getLast?.map (min · StreamDelay.limit)).getD
        engine.delay.ms := by
  induction calls generalizing engine with
  | nil => rfl
  | cons call calls inductionHypothesis =>
    rw [state_run_cons, inductionHypothesis, delayMs_perform]
    cases accepted : call.acceptedDelay? with
    | none => rw [List.filterMap_cons_none accepted]; rfl
    | some ms =>
      rw [List.filterMap_cons_some accepted, List.getLast?_cons]
      cases (calls.filterMap Call.acceptedDelay?).getLast? <;> rfl

/-- In every run from a new engine the three flags tell exactly whether a report is in force, and
the delay is the last one that was reported and kept, within the limit, or none at all.

The report of the delay stays in force until the engine starts anew or a frame to the loudspeaker
goes through, that of the drift until the echo canceller is prepared or a captured frame gets past
its checks, and that of the volume until a captured frame goes through a gain control that
recommends volumes. -/
theorem reports_in_force {blueprint : Blueprint} {created : Engine}
    (made : (create blueprint).1 = .ok created) (calls : List Call) :
    let engine := (created.run calls).2
    let moments := created.moments calls
    (engine.delay.isSet = true ↔ InForce ReportsDelay EndsDelay moments) ∧
      engine.delay.ms =
        ((calls.filterMap Call.acceptedDelay?).getLast?.map (min · StreamDelay.limit)).getD 0 ∧
      (engine.rack.echoCanceller.driftIsSet = true ↔ InForce ReportsDrift EndsDrift moments) ∧
      (engine.rack.gainControl.volumeIsSet = true ↔
        InForce ReportsVolume EndsVolume moments) := by
  obtain ⟨format, -, rfl⟩ := create_eq_ok made
  have delay := inForce_of_steps (fun engine => engine.delay.isSet = true) ReportsDelay
    EndsDelay (fun engine call => (reports_perform engine call).1) (blank blueprint.id format) calls
  have drift := inForce_of_steps (fun engine => engine.rack.echoCanceller.driftIsSet = true)
    ReportsDrift EndsDrift (fun engine call => (reports_perform engine call).2.1)
    (blank blueprint.id format) calls
  have volume := inForce_of_steps (fun engine => engine.rack.gainControl.volumeIsSet = true)
    ReportsVolume EndsVolume (fun engine call => (reports_perform engine call).2.2)
    (blank blueprint.id format) calls
  refine ⟨?_, delayMs_run (blank blueprint.id format) calls, ?_, ?_⟩
  · simpa [blank] using delay
  · simpa [blank] using drift
  · simpa [blank] using volume

/-- A run that reports all three, changes the rate while the echo canceller is on, and then reports
a delay and a volume that are both refused. -/
def renewed : List Call :=
  [.enable .echoCanceller true, .adjust (.drift 5), .reportDelay 900, .adjust (.volume 20),
    .setRate 8000, .reportDelay (-1), .adjust (.volume 300)]

/-- Behind that run the refused delay is reported and the earlier one kept, the drift is forgotten
and the earlier volume still reported. -/
theorem reports_in_force_renewed :
    let moments := (blank 0 {}).moments renewed
    (create {}).1 = .ok (blank 0 {}) ∧
      InForce ReportsDelay EndsDelay moments ∧ ((blank 0 {}).run renewed).2.delay.ms = 500 ∧
      ¬ InForce ReportsDrift EndsDrift moments ∧ InForce ReportsVolume EndsVolume moments := by
  have made : (create {}).1 = .ok (blank 0 {}) := rfl
  obtain ⟨delay, ms, drift, volume⟩ := reports_in_force made renewed
  have forgotten : ((blank 0 {}).run renewed).2.rack.echoCanceller.driftIsSet = false := rfl
  refine ⟨made, delay.mp rfl, ms, ?_, volume.mp rfl⟩
  rw [← drift, forgotten]
  exact Bool.false_ne_true

end Engine

end VoiceEngine
