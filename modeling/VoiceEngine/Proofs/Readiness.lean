import VoiceEngine.Proofs.Stored

/-!
# Frames that a clean engine takes

A run is clean as long as the latest start of the engine answered; a change of format that was
rejected does not count, because it changed nothing. In a clean engine every effect that is on
was made for the format at hand, so no effect refuses a matching frame for its size. What
remains are the parameters that some effects need for every captured frame: a clean engine
takes a matching frame exactly when these were given.
-/

namespace VoiceEngine

/-- Every effect that is on was made for the format. Of effects that are off nothing is asked. -/
def Rack.PreparedFor (rack : Rack) (format : Format) : Prop :=
  ∀ kind, rack.isEnabled kind = true → rack.MadeFor format kind

/-- A rack that is alike is prepared for the same formats. -/
theorem Rack.PreparedFor.of_alike {before after : Rack} {format : Format}
    (prepared : before.PreparedFor format) (alike : before.Alike after) :
    after.PreparedFor format := by
  intro kind enabled
  rw [alike.enabled kind] at enabled
  exact alike.madeFor format kind (prepared kind enabled)

/-- A frame has the rate and the length of a format and so many channels. -/
def Frame.Matches (frame : Frame) (format : Format) (channels : Nat) : Prop :=
  frame.rate = format.rate.hz ∧ frame.channelCount = channels ∧ frame.length = format.frameLength

namespace Engine

/-- The rule that tells whether the latest start answered. A call that does not start the engine
and one that was rejected for its parameters leave the answer as it was. -/
def cleanliness (clean : Bool) (engine : Engine) (call : Call) : Bool :=
  match call.target? engine.format, (engine.perform call).result with
  | none, _ => clean
  | some _, .ok _ => true
  | some _, .error .badParameter => clean
  | some _, .error _ => false

/-- A captured frame has what the effects that are on need with it: both echo effects a reported
delay, the echo canceller a reported drift if it compensates for one, and gain control a reported
volume if it recommends one. -/
def ParametersGiven (engine : Engine) : Prop :=
  (engine.rack.echoCanceller.enabled = true ∨ engine.rack.mobileEchoControl.enabled = true →
    engine.delay.isSet = true) ∧
  (engine.rack.echoCanceller.enabled = true → engine.rack.echoCanceller.compensatesDrift = true →
    engine.rack.echoCanceller.driftIsSet = true) ∧
  (engine.rack.gainControl.enabled = true → engine.rack.gainControl.mode = .adaptiveAnalog →
    engine.rack.gainControl.volumeIsSet = true)

/-- Switching an effect keeps the rack prepared: an effect that goes on is prepared first, and one
that refuses is switched back. -/
theorem preparedFor_enable {engine : Engine} (prepared : engine.rack.PreparedFor engine.format)
    (kind : EffectKind) (enabled : Bool) :
    (enable kind enabled engine).state.rack.PreparedFor
      (enable kind enabled engine).state.format := by
  rcases enable_cases kind enabled engine with ⟨_, _, state⟩ | ⟨rack, _, _, _, done, _, state⟩ |
    ⟨wasOn, _, state⟩
  · rw [state]
    exact prepared
  · rw [state]
    obtain ⟨same, fresh, untouched⟩ := Rack.prepare_spec done
    intro other otherEnabled
    dsimp only at otherEnabled ⊢
    by_cases isKind : other = kind
    · subst isKind
      exact fresh (Rack.isEnabled_switch engine.rack true other)
    · rw [same other, Rack.isEnabled_switch_of_ne engine.rack true isKind] at otherEnabled
      exact untouched other isKind engine.format
        (Rack.madeFor_switch engine.rack true kind other engine.format
          (prepared other otherEnabled))
  · rw [state]
    intro other otherEnabled
    dsimp only at otherEnabled ⊢
    refine Rack.madeFor_switch engine.rack enabled kind other engine.format
      (prepared other ?_)
    by_cases isKind : other = kind
    · subst isKind
      rw [Rack.isEnabled_switch] at otherEnabled
      exact (wasOn otherEnabled).2
    · rwa [Rack.isEnabled_switch_of_ne engine.rack enabled isKind] at otherEnabled

/-- A start that answers leaves every effect that is on prepared: none of them refused, so all of
them come before the end of the row. -/
theorem preparedFor_restart (engine : Engine) (answered : (restart engine).result = .ok ()) :
    (restart engine).state.rack.PreparedFor engine.format := by
  rw [restart_result] at answered
  rw [restart_state]
  obtain ⟨same, fresh, -⟩ :=
    Rack.prepareEach_spec engine.rack engine.format EffectKind.all (by decide)
  split at answered
  case h_1 complete =>
    intro kind enabled
    dsimp only at enabled ⊢
    rw [same kind] at enabled
    refine fresh kind ?_ enabled
    rw [complete]
    exact EffectKind.mem_all kind
  case h_2 => cases answered

/-- A start fails with one fault only, which is not that of a rejected call. By the fault alone one
can therefore tell whether the engine was started. -/
theorem restart_error {engine : Engine} {fault : Fault}
    (failed : (restart engine).result = .error fault) :
    fault = .badSampleRate ∧ engine.rack.mobileEchoControl.enabled = true ∧
      engine.format.rate.isSplit = true := by
  rw [restart_result] at failed
  split at failed
  case h_1 => cases failed
  case h_2 kind cause refused =>
    cases failed
    obtain ⟨-, -, enabled, split, rfl⟩ := Rack.prepareEach_error refused
    exact ⟨rfl, enabled, split⟩

/-- As long as a run is clean, every effect that is on is prepared for the format at hand. A start
that answers prepares them all, a rejected call changes nothing, and a start that fails ends the
clean part of the run. -/
theorem preparedFor_perform (clean : Bool) (engine : Engine) (call : Call)
    (prepared : clean = true → engine.rack.PreparedFor engine.format)
    (stillClean : cleanliness clean engine call = true) :
    (engine.perform call).state.rack.PreparedFor (engine.perform call).state.format := by
  simp only [cleanliness] at stillClean
  cases target : call.target? engine.format with
  | none =>
    simp only [target] at stillClean
    rcases perform_of_no_target target with ⟨kind, enabled, rfl⟩ | ⟨format, alike⟩
    · exact preparedFor_enable (prepared stillClean) kind enabled
    · rw [format]
      exact (prepared stillClean).of_alike alike
  | some change =>
    cases change with
    | error cause =>
      obtain ⟨result, state⟩ := perform_of_target_error target
      simp only [target, result] at stillClean
      rw [state]
      exact prepared stillClean
    | ok format =>
      have performed := perform_of_target target
      cases result : (restart { engine with format }).result with
      | ok answer =>
        have ready := preparedFor_restart { engine with format } result
        rw [performed]
        dsimp only [replying]
        rw [restart_state] at ready ⊢
        exact ready
      | error fault =>
        obtain ⟨rfl, -⟩ := restart_error result
        simp [target, performed, replying, result, Except.map] at stillClean

/-- The engine at the end of a clean run of well-formed calls is stored as its format asks, and
every effect that is on is prepared for that format. -/
theorem ready_of_clean {blueprint : Blueprint} {created : Engine} {calls : List Call}
    (made : (create blueprint).1 = .ok created) (wellFormed : ∀ call ∈ calls, call.WellFormed)
    (clean : created.remember cleanliness true calls = true) :
    (created.run calls).2.Stored ∧
      (created.run calls).2.rack.PreparedFor (created.run calls).2.format := by
  obtain ⟨format, supported, rfl⟩ := create_eq_ok made
  have invariant := remember_induction cleanliness
    (fun clean engine => engine.Stored ∧
      (clean = true → engine.rack.PreparedFor engine.format))
    (fun clean engine call callWellFormed known =>
      ⟨known.1.perform callWellFormed, preparedFor_perform clean engine call known.2⟩)
    true (blank blueprint.id format) calls wellFormed
    ⟨stored_blank blueprint.id supported, fun _ kind enabled => by cases kind <;> cases enabled⟩
  exact ⟨invariant.1, invariant.2 clean⟩

end Engine

namespace Rack

variable {rack : Rack} {format : Format}

/-- No effect that was made for the format refuses a frame to the loudspeaker, since the length of
the bands is all it could refuse. -/
theorem PreparedFor.render_refusal (prepared : rack.PreparedFor format) (stage : RenderStage) :
    stage.refusal rack format.bandLength = none := by
  cases stage with
  | echoCanceller =>
    refine if_neg ?_
    rintro ⟨enabled, unfit⟩
    exact unfit (prepared .echoCanceller enabled).1.fits
  | mobileEchoControl =>
    refine if_neg ?_
    rintro ⟨enabled, unfit⟩
    exact unfit (prepared .mobileEchoControl enabled).2.1.fits
  | gainControl => rfl
  | levelMeter => rfl

/-- Effects that were made for the format take its captured frames: they have a state for every
channel that leaves, and that is the number of channels the stages see. -/
theorem PreparedFor.not_misfits (prepared : rack.PreparedFor format) (stage : CaptureStage) :
    ¬ stage.Misfits rack format.bandLength format.outputChannels := by
  intro misfits
  cases stage with
  | highPass =>
    obtain ⟨enabled, few⟩ := misfits
    rw [(prepared .highPass enabled).1] at few
    exact Nat.lt_irrefl _ few
  | noiseSuppressor =>
    obtain ⟨enabled, few⟩ := misfits
    have count : rack.noiseSuppressor.channels.length = format.outputChannels :=
      prepared .noiseSuppressor enabled
    rw [count] at few
    exact Nat.lt_irrefl _ few
  | echoCanceller =>
    obtain ⟨enabled, unfit⟩ := misfits
    obtain ⟨farEnd, count⟩ := prepared .echoCanceller enabled
    exact unfit ⟨farEnd.fits, Nat.le_of_eq count.symm⟩
  | mobileEchoControl =>
    obtain ⟨enabled, unfit⟩ := misfits
    obtain ⟨-, farEnd, count⟩ := prepared .mobileEchoControl enabled
    exact unfit ⟨farEnd.fits, Nat.le_of_eq count.symm⟩
  | _ => exact misfits

/-- The only thing that effects made for the format can still lack is a parameter. -/
theorem PreparedFor.capture_refusal (prepared : rack.PreparedFor format) (delay : StreamDelay)
    (stage : CaptureStage) :
    stage.refusal delay rack format.bandLength format.outputChannels =
      if stage.Lacks delay rack then some .parameterNotSet else none := by
  simp only [CaptureStage.refusal]
  rw [if_neg (prepared.not_misfits stage)]

end Rack

namespace Engine

variable {engine : Engine}

/-- The parameters were given exactly when no stage lacks one. The left side speaks of effects and
the right side of stages. -/
theorem parametersGiven_iff :
    engine.ParametersGiven ↔
      ∀ stage : CaptureStage, ¬ stage.Lacks engine.delay engine.rack := by
  simp only [ParametersGiven]
  constructor
  · rintro ⟨delayGiven, driftGiven, volumeGiven⟩ stage lacks
    cases stage with
    | echoCanceller =>
      obtain ⟨enabled, missing⟩ := lacks
      simp [EchoCanceller.lacksParameter, delayGiven (.inl enabled)] at missing
      simp [driftGiven enabled missing.1] at missing
    | mobileEchoControl =>
      obtain ⟨enabled, missing⟩ := lacks
      simp [delayGiven (.inr enabled)] at missing
    | applyGain =>
      obtain ⟨enabled, missing⟩ := lacks
      simp [GainControl.lacksVolume] at missing
      simp [volumeGiven enabled missing.1] at missing
    | _ => exact lacks
  · intro complete
    have canceller := complete .echoCanceller
    have mobile := complete .mobileEchoControl
    have gain := complete .applyGain
    dsimp only [CaptureStage.Lacks] at canceller mobile gain
    refine ⟨?_, ?_, ?_⟩
    · rintro (enabled | enabled)
      · simp [enabled, EchoCanceller.lacksParameter] at canceller
        exact canceller.1
      · simpa [enabled] using mobile
    · intro enabled compensates
      simp [enabled, compensates, EchoCanceller.lacksParameter] at canceller
      exact canceller.2
    · intro enabled analog
      simpa [enabled, analog, GainControl.lacksVolume] using gain

/-- The engines that a clean run of well-formed calls leads to. -/
def Clean (engine : Engine) : Prop :=
  ∃ blueprint calls created, (create blueprint).1 = .ok created ∧
    (∀ call ∈ calls, call.WellFormed) ∧ created.remember cleanliness true calls = true ∧
    (created.run calls).2 = engine

/-- A clean engine is ready for the frames of its format. It takes every matching frame to the
loudspeaker. It takes a matching captured frame exactly when the parameters were given, and
otherwise says that one is missing; a frame that it took comes back at its rate and with its
length, with the channels that leave and exactly the samples that these announce.

The frame must be possible to record, if a recording is going on: a sink that does not take the
record would end the call before the effects see the frame. -/
theorem outcome_of_clean (engine : Engine) (clean : engine.Clean) :
    (∀ frame : Frame, frame.WellFormed →
      frame.Matches engine.format engine.format.reverseChannels →
      engine.Records .rendered frame → (render frame engine).result = .ok ()) ∧
    ∀ frame : Frame, frame.WellFormed →
      frame.Matches engine.format engine.format.inputChannels →
      engine.Records .captured frame →
        ((engine.capture frame).1.result = .ok () ↔ engine.ParametersGiven) ∧
        (¬ engine.ParametersGiven →
          (engine.capture frame).1.result = .error .parameterNotSet) ∧
        ((engine.capture frame).1.result = .ok () →
          (engine.capture frame).2.rate = frame.rate ∧
          (engine.capture frame).2.length = frame.length ∧
          (engine.capture frame).2.channelCount = engine.format.outputChannels ∧
          (engine.capture frame).2.data.length =
            (engine.capture frame).2.channelCount * (engine.capture frame).2.length) := by
  obtain ⟨blueprint, calls, created, made, callsWellFormed, stillClean, rfl⟩ := clean
  obtain ⟨stored, prepared⟩ := ready_of_clean made callsWellFormed stillClean
  generalize (created.run calls).2 = engine at stored prepared ⊢
  constructor
  · intro frame wellFormed matching records
    have fits := frameFault_eq_none_iff.mpr matching
    have recorded := (recordFrame_ok_iff fits stored.supported.2.2.2.2).mpr records
    rcases render_cases engine frame with ⟨_, mismatch, _⟩ | ⟨_, _, _, failed, _⟩ |
      ⟨recorder, _, result, _⟩
    · rw [fits] at mismatch
      cases mismatch
    · rw [recorded] at failed
      cases failed
    · rw [result]
      refine observe_ok_of_ready ?_
      rw [stored.rendering.bandLength]
      exact prepared.render_refusal
  · intro frame wellFormed matching records
    have fits := frameFault_eq_none_iff.mpr matching
    have refusals := prepared.capture_refusal engine.delay
    have given : (engine.capture frame).1.result = .ok () ↔ engine.ParametersGiven := by
      rw [stored.capture_ok_iff, parametersGiven_iff]
      refine (and_iff_right fits).trans ((and_iff_right records).trans ?_)
      refine forall_congr' fun stage => ?_
      rw [refusals stage]
      by_cases lacks : stage.Lacks engine.delay engine.rack
      · simp [lacks]
      · simp [lacks]
    refine ⟨given, ?_, stored.capture_frame wellFormed⟩
    intro missing
    cases result : (engine.capture frame).1.result with
    | ok answer => exact absurd (given.mp result) missing
    | error fault =>
      obtain ⟨stage, reason⟩ := stored.exists_refusal fits records result
      rw [refusals stage] at reason
      split at reason
      case isTrue =>
        cases reason
        rfl
      case isFalse => cases reason

/-- A run in which a change of rate fails while mobile echo control is on and a later change to
another rate succeeds is clean again, and its engine takes a frame at the new rate. -/
def recovered : Engine :=
  ((blank 0 {}).run [.enable .mobileEchoControl true, .enable .noiseSuppressor true,
    .setRate 32000, .setRate 8000, .reportDelay 20]).2

/-- The recovered engine takes silence at its rate from both sides. -/
theorem outcome_of_clean_recovered :
    recovered.Clean ∧ (Frame.silent 8000 1 80).WellFormed ∧
      (Frame.silent 8000 1 80).Matches recovered.format 1 ∧ recovered.ParametersGiven ∧
      (render (Frame.silent 8000 1 80) recovered).result = .ok () ∧
      (recovered.capture (Frame.silent 8000 1 80)).1.result = .ok () ∧
      (recovered.capture (Frame.silent 8000 1 80)).2.data.length = 80 := by
  have clean : recovered.Clean :=
    ⟨{}, [.enable .mobileEchoControl true, .enable .noiseSuppressor true, .setRate 32000,
      .setRate 8000, .reportDelay 20], blank 0 {}, rfl, by decide, by rfl, rfl⟩
  have wellFormed := Frame.wellFormed_silent 8000 1 80
  have matching : (Frame.silent 8000 1 80).Matches recovered.format 1 := ⟨rfl, rfl, rfl⟩
  have records (event) : recovered.Records event (Frame.silent 8000 1 80) := by
    intro sink given
    cases given
  have given : recovered.ParametersGiven := by
    refine ⟨fun _ => rfl, fun enabled => ?_, fun enabled => ?_⟩
    · cases enabled
    · cases enabled
  obtain ⟨rendered, captured⟩ := outcome_of_clean recovered clean
  obtain ⟨takes, -, shape⟩ := captured (Frame.silent 8000 1 80) wellFormed matching (records _)
  have taken := takes.mpr given
  obtain ⟨-, length, count, exact⟩ := shape taken
  refine ⟨clean, wellFormed, matching, given,
    rendered (Frame.silent 8000 1 80) wellFormed matching (records _), taken, ?_⟩
  rw [exact, count, length]
  rfl

end Engine

end VoiceEngine
