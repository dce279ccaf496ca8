import VoiceEngine.Proofs.GainMotion
import VoiceEngine.Proofs.MeasuredInput

/-!
# When the gain is above the largest one

The largest gain bounds what the adaptive modes move toward, and not the gain that is stored. The
gain gets above the largest one in one way only: a largest gain is set that is below it. From then
on it stays above until the gain control is prepared, a largest gain is set that is not below it, or
a captured frame goes through that brings it down: one in the fixed mode, or a loud one when the
gain is at most two decibels above. In particular a gain that is above stays there for as long as
the input is quiet.
-/

namespace VoiceEngine

open Scalar

namespace GainControl

/-- The gain and the largest one. -/
def gainAndBound (effect : GainControl) : Scalar × Int := (effect.gain, effect.compression)

variable {effect other : GainControl}

/-- Measuring moves neither. -/
theorem gainAndBound_measure (effect : GainControl) (audio : StreamBuffer) :
    (effect.measure audio).gainAndBound = effect.gainAndBound := by
  simp only [measure]
  split <;> rfl

/-- A frame to the loudspeaker moves neither. -/
theorem gainAndBound_render (effect : GainControl) (audio : StreamBuffer) :
    (effect.render audio).gainAndBound = effect.gainAndBound := by
  simp only [render]
  split <;> rfl

/-- A gain control that refuses is left as it is. -/
theorem effect_capture_of_refused {audio : StreamBuffer}
    (refused : (effect.capture audio).fault ≠ none) : (effect.capture audio).effect = effect := by
  rw [fault_capture] at refused
  have lacks : effect.enabled = true ∧ effect.lacksVolume = true := by
    by_contra complete
    exact refused (if_neg complete)
  simp [capture, lacks.1, lacks.2, Pass.refused]

/-- Whether the gain is in range depends on the gain alone. -/
theorem GainInRange.congr (inRange : effect.GainInRange) (same : other.gain = effect.gain) :
    other.GainInRange := by
  rwa [GainInRange, same]

/-- Whether it is at most the largest one depends on the two alone. -/
theorem withinBound_iff {gain : Scalar} {compression : Int}
    (its : effect.gainAndBound = (gain, compression)) :
    effect.WithinBound ↔ gain ≤ Float32.ofInt compression := by
  obtain ⟨rfl, rfl⟩ := Prod.mk.inj its
  rfl

end GainControl

/-- Only the stage that applies the gain moves it. -/
theorem CaptureStage.gainAndBound_run_of_ne {stage : CaptureStage} (other : stage ≠ .applyGain)
    (delay : StreamDelay) (rack : Rack) (audio : StreamBuffer) :
    (stage.run delay rack audio).effect.gainControl.gainAndBound =
      rack.gainControl.gainAndBound := by
  cases stage with
  | applyGain => exact absurd rfl other
  | measureGain => exact GainControl.gainAndBound_measure rack.gainControl audio
  | snapshot =>
    simp only [run]
    split <;> rfl
  | _ => rfl

/-- The stages in a row do not move the gain when one of them fails or the gain control is off. -/
theorem CaptureStage.gainAndBound_runEach {delay : StreamDelay} {rack : Rack} {audio : StreamBuffer}
    (unused : (runEach delay order rack audio).1 ≠ none ∨ rack.gainControl.enabled = false) :
    (runEach delay order rack audio).2.1.gainControl.gainAndBound =
      rack.gainControl.gainAndBound := by
  have parts : order = beforeApplyGain ++ [.applyGain, .levelMeter] := rfl
  have elsewhere : ∀ stage ∈ beforeApplyGain, stage ≠ .applyGain := by decide
  have early := runEach_keeps (fun rack => rack.gainControl.gainAndBound) delay
    (fun stage member => gainAndBound_run_of_ne (elsewhere stage member) delay) rack audio
  have settings := runEach_keeps (fun rack => Configurable.settings rack.gainControl) delay
    (fun stage member => settings_gainControl_run_of_ne (elsewhere stage member) delay) rack audio
  rw [parts, runEach_append] at unused ⊢
  rcases outcome : runEach delay beforeApplyGain rack audio with ⟨failure, reached, heard⟩
  rw [outcome] at early settings unused
  cases failure with
  | some failure => exact early
  | none =>
    refine Eq.trans ?_ early
    have enabled : reached.gainControl.enabled = rack.gainControl.enabled :=
      (congrArg GainControl.enabled settings :)
    rw [← enabled] at unused
    simp only [runEach, run, Pass.fault_done] at unused ⊢
    cases refused : (reached.gainControl.capture heard).fault with
    | some cause =>
      have failed : (reached.gainControl.capture heard).fault ≠ none := by simp [refused]
      exact congrArg GainControl.gainAndBound (GainControl.effect_capture_of_refused failed)
    | none =>
      have off : reached.gainControl.enabled = false := unused.resolve_left (by simp [refused])
      exact congrArg GainControl.gainAndBound
        (congrArg Pass.effect (GainControl.capture_of_off off heard))

/-- No stage of a frame to the loudspeaker moves the gain. -/
theorem RenderStage.gainAndBound_runEach (audio : StreamBuffer) (stages : List RenderStage)
    (rack : Rack) : (runEach audio stages rack).2.gainControl.gainAndBound =
      rack.gainControl.gainAndBound := by
  refine runEach_keeps (fun rack => rack.gainControl.gainAndBound) audio
    (fun stage rack next done => ?_) stages rack
  cases stage with
  | echoCanceller =>
    obtain ⟨effect, taken, rfl⟩ := exists_of_map_eq_ok done
    rfl
  | mobileEchoControl =>
    obtain ⟨effect, taken, rfl⟩ := exists_of_map_eq_ok done
    rfl
  | gainControl =>
    cases done
    exact GainControl.gainAndBound_render rack.gainControl audio
  | levelMeter =>
    cases done
    rfl

namespace Engine

variable {engine : Engine} {call : Call}

/-- What a call does to the gain and to the largest one: one of three things, or nothing. -/
inductive GainStep (engine : Engine) (call : Call) : Prop
  /-- The gain control is prepared, and the gain is zero. -/
  | prepared (prepares : engine.prepares call .gainControl = true)
      (same : (engine.perform call).state.rack.gainControl.gainAndBound =
        (0.0, engine.rack.gainControl.compression))
  /-- Another largest gain is taken. -/
  | bounded (compression : Int) (its : call = .adjust (.compressionGain compression))
      (limits : 0 ≤ compression ∧ compression ≤ GainControl.compressionLimit)
      (same : (engine.perform call).state.rack.gainControl.gainAndBound =
        (engine.rack.gainControl.gain, compression))
  /-- A captured frame goes through a gain control that is on. -/
  | applied (frame : Frame) (its : call = .capture frame)
      (on : engine.rack.gainControl.enabled = true)
      (done : (engine.capture frame).1.result = .ok ())
  /-- None of this happens. -/
  | kept (unprepared : engine.prepares call .gainControl = false)
      (unbounded : ∀ compression, call = .adjust (.compressionGain compression) →
        ¬ (0 ≤ compression ∧ compression ≤ GainControl.compressionLimit))
      (unapplied : ∀ frame, call = .capture frame →
        ¬ (engine.rack.gainControl.enabled = true ∧ (engine.capture frame).1.result = .ok ()))
      (same : (engine.perform call).state.rack.gainControl.gainAndBound =
        engine.rack.gainControl.gainAndBound)

/-- A call that asks for a format does nothing to the gain control but prepare it. -/
theorem GainStep.kept_of_target {change : Except FormatError Format}
    (target : call.target? engine.format = some change)
    (unprepared : engine.prepares call .gainControl = false)
    (same : (engine.perform call).state.rack.gainControl.gainAndBound =
      engine.rack.gainControl.gainAndBound) : engine.GainStep call := by
  refine .kept unprepared ?_ ?_ same
  · rintro _ rfl
    cases target
  · rintro _ rfl
    cases target

/-- Starting anew prepares the gain control if it is on, unless mobile echo control refuses. -/
theorem gainStep_of_target {format : Format}
    (target : call.target? engine.format = some (.ok format)) : engine.GainStep call := by
  have after := congrArg Outcome.state (perform_of_target target)
  rw [replying, restart_state] at after
  have prepares := prepares_of_target target .gainControl
  dsimp only [Rack.isEnabled] at prepares
  rw [Rack.prepareEach_all] at prepares after
  cases mobile : engine.rack.mobileEchoControl.prepare format with
  | error fault =>
    rw [mobile] at prepares after
    exact .kept_of_target target (prepares.trans (by simp [Rack.preparedBy, EffectKind.all]))
      (by rw [after])
  | ok mobileEchoControl =>
    rw [mobile] at prepares after
    cases on : engine.rack.gainControl.enabled with
    | true =>
      refine .prepared (prepares.trans (by simp [on, Rack.preparedBy, EffectKind.all])) ?_
      rw [after]
      simp [GainControl.prepare, GainControl.gainAndBound, on]
    | false =>
      refine .kept_of_target target (prepares.trans (by simp [on])) ?_
      rw [after]
      simp [GainControl.prepare, on]

/-- Switching effects prepares the gain control when it goes on itself. Preparing another effect
does not reach it, and a switch leaves its gain and the largest one. -/
theorem gainStep_enable (kind : EffectKind) (enabled : Bool) :
    engine.GainStep (.enable kind enabled) := by
  have state : (engine.perform (.enable kind enabled)).state = (enable kind enabled engine).state :=
    rfl
  have switched : (engine.rack.switch enabled kind).gainControl.gainAndBound =
      engine.rack.gainControl.gainAndBound := by
    cases kind <;> rfl
  rcases engine.enable_prepares_cases kind enabled with ⟨after, unprepared⟩ |
    ⟨rack, rfl, -, prepared, after, prepares⟩ | ⟨-, after, unprepared⟩
  · exact .kept (unprepared _) (by simp) (by simp) (by rw [state, after])
  · by_cases itself : kind = .gainControl
    · subst itself
      refine .prepared (prepares .gainControl) ?_
      rw [state, after]
      cases prepared
      rfl
    · refine .kept ((prepares _).trans (decide_eq_false itself)) (by simp) (by simp) ?_
      rw [state, after]
      refine Eq.trans ?_ switched
      cases kind with
      | gainControl => exact absurd rfl itself
      | mobileEchoControl =>
        rw [Rack.prepare_mobileEchoControl] at prepared
        obtain ⟨effect, done, rfl⟩ := exists_of_map_eq_ok prepared
        rfl
      | _ =>
        cases prepared
        rfl
  · exact .kept (unprepared _) (by simp) (by simp) (by rw [state, after]; exact switched)

/-- Handing a value to an effect never moves the gain. It moves the largest one when the value is
another one and is taken. -/
theorem gainStep_adjust (setting : Setting) : engine.GainStep (.adjust setting) := by
  have kept (same : (adjust setting engine).state.rack.gainControl.gainAndBound =
      engine.rack.gainControl.gainAndBound)
      (unbounded : ∀ compression, setting = .compressionGain compression →
        ¬ (0 ≤ compression ∧ compression ≤ GainControl.compressionLimit)) :
      engine.GainStep (.adjust setting) :=
    .kept rfl (fun compression its => unbounded compression (Call.adjust.inj its)) (by simp) same
  cases taken : engine.rack.adjust setting with
  | error fault =>
    refine kept (by simp only [adjust, taken]) ?_
    rintro compression rfl limits
    simp only [Rack.adjust, GainControl.setCompression, if_pos limits] at taken
    cases taken
  | ok rack =>
    have after : (adjust setting engine).state.rack.gainControl.gainAndBound =
        rack.gainControl.gainAndBound := by
      simp only [adjust, taken]
    by_cases another : ∃ compression, setting = .compressionGain compression
    · obtain ⟨compression, rfl⟩ := another
      rw [Rack.adjust_eq] at taken
      obtain ⟨limits, rfl⟩ := Setter.of_map_apply taken
      exact .bounded compression rfl (of_decide_eq_true limits) after
    · have unbounded : ∀ compression, setting = .compressionGain compression →
          ¬ (0 ≤ compression ∧ compression ≤ GainControl.compressionLimit) :=
        fun compression its => absurd ⟨compression, its⟩ another
      cases Rack.adjusted taken with
      | gainControl setter its =>
        have tuned := Setting.tuned_gainControl its engine.rack.gainControl
        have compression : (setter.work engine.rack.gainControl).compression =
            engine.rack.gainControl.compression := tuned.kept another
        refine kept (after.trans ?_) unbounded
        simp only [GainControl.gainAndBound, tuned.gain, compression]
      | _ => exact kept after unbounded

/-- A captured frame moves the gain when it goes through a gain control that is on. -/
theorem gainStep_capture (frame : Frame) : engine.GainStep (.capture frame) := by
  by_cases used : engine.rack.gainControl.enabled = true ∧ (engine.capture frame).1.result = .ok ()
  · exact .applied frame rfl used.1 used.2
  · have unapplied : ∀ other, Call.capture frame = .capture other →
        ¬ (engine.rack.gainControl.enabled = true ∧
          (engine.capture other).1.result = .ok ()) := by
      rintro _ ⟨⟩
      exact used
    refine .kept rfl (by simp) unapplied ?_
    have state : (engine.perform (.capture frame)).state = (engine.capture frame).1.state := rfl
    rw [state]
    rcases capture_cases engine frame with ⟨fault, -, -, after, -⟩ |
      ⟨fault, recorder, -, -, -, after, -⟩ | ⟨recorder, -, -, result, after, -⟩
    · rw [after]
    · rw [after]
    · rw [after, (rack_process { engine with recorder } frame).1]
      refine CaptureStage.gainAndBound_runEach ?_
      have passed := process_ok_iff_runEach { engine with recorder } frame
      rw [← result] at passed
      by_contra both
      simp only [not_or, not_not, Bool.not_eq_false] at both
      exact used ⟨both.2, passed.mpr both.1⟩

/-- A frame to the loudspeaker does not move the gain. -/
theorem gainStep_render (frame : Frame) : engine.GainStep (.render frame) := by
  refine .kept rfl (by simp) (by simp) ?_
  have state : (engine.perform (.render frame)).state = (render frame engine).state := rfl
  rw [state]
  rcases render_cases engine frame with ⟨fault, -, -, after⟩ |
    ⟨fault, recorder, -, -, -, after⟩ | ⟨recorder, -, -, after⟩
  · rw [after]
  · rw [after]
  · rw [after, rack_observe]
    exact RenderStage.gainAndBound_runEach _ RenderStage.order engine.rack

/-- Every call does one of these. -/
theorem gainStep (engine : Engine) (call : Call) : engine.GainStep call := by
  cases target : call.target? engine.format with
  | some change =>
    cases change with
    | error cause =>
      exact .kept_of_target target (prepares_of_target_error target _)
        (by rw [(perform_of_target_error target).2])
    | ok format => exact gainStep_of_target target
  | none =>
    cases call with
    | enable kind enabled => exact gainStep_enable kind enabled
    | adjust setting => exact gainStep_adjust setting
    | capture frame => exact gainStep_capture frame
    | render frame => exact gainStep_render frame
    | reportDelay ms => exact .kept rfl (by simp) (by simp) (by rw [state_reportDelay])
    | restart => cases target
    | setRate hz => cases target
    | setChannels input output => cases target
    | setReverseChannels channels => cases target
    | _ => exact .kept rfl (by simp) (by simp) rfl

/-- A call sets a largest gain that is below the gain. -/
def Undercuts (engine : Engine) (call : Call) : Prop :=
  ∃ compression, call = .adjust (.compressionGain compression) ∧
    (0 ≤ compression ∧ compression ≤ GainControl.compressionLimit) ∧
    ¬ engine.rack.gainControl.gain ≤ Float32.ofInt compression

/-- A captured frame that goes through a gain control that is on leaves the gain at most at the
largest one, whatever it was before: the mode is fixed, or the frame is loud and the gain is at most
two decibels above. -/
def BringsDown (engine : Engine) (frame : Frame) : Prop :=
  engine.rack.gainControl.mode = .fixedDigital ∨
    GainControl.speechLevel < (engine.capture frame).1.state.rack.gainControl.level ∧
      engine.rack.gainControl.gain ≤ Float32.ofInt (engine.rack.gainControl.compression + 2)

/-- A call leaves the gain at most at the largest one, whatever it was before: it prepares the gain
control, sets a largest gain that is not below the gain, or hands over a captured frame that goes
through and brings the gain down. -/
def Restores (engine : Engine) (call : Call) : Prop :=
  engine.prepares call .gainControl = true ∨
    (∃ compression, call = .adjust (.compressionGain compression) ∧
      (0 ≤ compression ∧ compression ≤ GainControl.compressionLimit) ∧
      engine.rack.gainControl.gain ≤ Float32.ofInt compression) ∨
    ∃ frame, call = .capture frame ∧ engine.rack.gainControl.enabled = true ∧
      (engine.capture frame).1.result = .ok () ∧ engine.BringsDown frame

/-- An engine is within its bounds, and the gain in range. -/
structure GainKnown (engine : Engine) : Prop where
  bounded : engine.Bounded
  inRange : engine.rack.gainControl.GainInRange

/-- A captured frame that goes through a gain control that is on leaves the gain in range, and at
most at the largest one exactly when it was before or the frame brings it down. -/
theorem withinBound_capture (known : engine.GainKnown) {frame : Frame}
    (on : engine.rack.gainControl.enabled = true)
    (done : (engine.capture frame).1.result = .ok ()) :
    (engine.capture frame).1.state.rack.gainControl.GainInRange ∧
      ((engine.capture frame).1.state.rack.gainControl.WithinBound ↔
        engine.rack.gainControl.WithinBound ∨ engine.BringsDown frame) := by
  obtain ⟨-, -, recommended, volumeIsSet, after⟩ := gainControl_capture on done
  generalize engine.measuredStream frame = heard at after
  have same := GainControl.gainAndBound_measure engine.rack.gainControl heard
  have settings := GainControl.settings_measure engine.rack.gainControl heard
  have mode : (engine.rack.gainControl.measure heard).mode = engine.rack.gainControl.mode :=
    (congrArg GainControl.mode settings :)
  obtain ⟨inRange, within⟩ := GainControl.nextGain_spec
    (known.bounded.steady.gainControl.measure heard) (known.inRange.congr (congrArg Prod.fst same))
  have gain : (engine.rack.gainControl.measure heard).gain = engine.rack.gainControl.gain :=
    congrArg Prod.fst same
  have compression : (engine.rack.gainControl.measure heard).compression =
      engine.rack.gainControl.compression := congrArg Prod.snd same
  rw [BringsDown, after]
  refine ⟨inRange, within.trans ?_⟩
  rw [GainControl.withinBound_iff same, mode, gain, compression, or_left_comm]
  rfl

/-- Every call keeps this known. -/
theorem GainKnown.perform (known : engine.GainKnown) (wellFormed : call.WellFormed) :
    (engine.perform call).state.GainKnown := by
  refine ⟨known.bounded.perform wellFormed, ?_⟩
  rcases engine.gainStep call with ⟨-, same⟩ | ⟨compression, -, -, same⟩ | ⟨frame, rfl, on, done⟩ |
    ⟨-, -, -, same⟩
  · have gain : (engine.perform call).state.rack.gainControl.gain = 0.0 := congrArg Prod.fst same
    exact ⟨0, gain ▸ denotes_zero, Int.le_refl 0, by decide⟩
  · exact known.inRange.congr (congrArg Prod.fst same)
  · exact (withinBound_capture known on done).1
  · exact known.inRange.congr (congrArg Prod.fst same)

/-- The gain is above the largest one after a call exactly when the call undercuts it, or when it
was above before and the call does not restore it.

Proof: the four cases are what a call can do to the gain: it prepares the gain control, sets the
largest gain, moves the gain with a frame, or does none of these. -/
theorem withinBound_perform (known : engine.GainKnown) :
    ¬ (engine.perform call).state.rack.gainControl.WithinBound ↔
      engine.Undercuts call ∨
        ¬ engine.rack.gainControl.WithinBound ∧ ¬ engine.Restores call := by
  rcases engine.gainStep call with ⟨prepares, same⟩ | ⟨compression, rfl, limits, same⟩ |
    ⟨frame, rfl, on, done⟩ | ⟨unprepared, unbounded, unapplied, same⟩
  · obtain ⟨least, most⟩ := known.bounded.steady.gainControl.compression
    have within : (engine.perform call).state.rack.gainControl.WithinBound := by
      rw [GainControl.withinBound_iff same,
        le_iff denotes_zero (GainControl.denotes_ofInt least (by omega)), GainControl.decibel]
      omega
    have uncut : ¬ engine.Undercuts call := by
      rintro ⟨compression, rfl, -⟩
      cases prepares
    simp [within, uncut, Restores, prepares]
  · have undercuts : engine.Undercuts (.adjust (.compressionGain compression)) ↔
        ¬ engine.rack.gainControl.gain ≤ Float32.ofInt compression := by
      constructor
      · rintro ⟨_, its, -, above⟩
        cases its
        exact above
      · exact fun above => ⟨compression, rfl, limits, above⟩
    have restores (inside : engine.rack.gainControl.gain ≤ Float32.ofInt compression) :
        engine.Restores (.adjust (.compressionGain compression)) :=
      .inr (.inl ⟨compression, rfl, limits, inside⟩)
    rw [GainControl.withinBound_iff same, undercuts]
    constructor
    · exact .inl
    · rintro (above | ⟨-, lasts⟩)
      · exact above
      · exact fun inside => lasts (restores inside)
  · have uncut : ¬ engine.Undercuts (.capture frame) := by
      rintro ⟨_, its, -⟩
      cases its
    have restores : engine.Restores (.capture frame) ↔ engine.BringsDown frame := by
      constructor
      · rintro (prepares | ⟨_, its, -⟩ | ⟨_, its, -, -, down⟩)
        · cases prepares
        · cases its
        · cases its
          exact down
      · exact fun down => .inr (.inr ⟨frame, rfl, on, done, down⟩)
    have within : (engine.perform (.capture frame)).state.rack.gainControl.WithinBound ↔ _ :=
      (withinBound_capture known on done).2
    rw [within, restores, not_or, or_iff_right uncut]
  · have uncut : ¬ engine.Undercuts call := by
      rintro ⟨compression, its, limits, -⟩
      exact unbounded compression its limits
    have lasts : ¬ engine.Restores call := by
      rintro (prepares | ⟨compression, its, limits, -⟩ | ⟨frame, its, on, done, -⟩)
      · cases unprepared.symm.trans prepares
      · exact unbounded compression its limits
      · exact unapplied frame its ⟨on, done⟩
    rw [GainControl.withinBound_iff same, or_iff_right uncut, and_iff_left lasts]
    rfl

/-- All this is known of a new engine, and its gain is not above. -/
theorem gainKnown_blank (id : Int) {format : Format} (supported : format.Supported) :
    (blank id format).GainKnown ∧ (blank id format).rack.gainControl.WithinBound := by
  refine ⟨⟨bounded_blank id supported, 0, denotes_zero, Int.le_refl 0, by decide⟩, ?_⟩
  have standard : (blank id format).rack.gainControl.gainAndBound = (0.0, 9) := rfl
  rw [GainControl.withinBound_iff standard,
    le_iff denotes_zero (GainControl.denotes_ofInt (by decide) (by decide))]
  decide

/-- It is known of every reachable engine. -/
theorem Reachable.gainKnown (reached : engine.Reachable) : engine.GainKnown :=
  reachable_induction (fun id _ supported => (gainKnown_blank id supported).1)
    (fun _ _ wellFormed known => known.perform wellFormed) reached

/-- The gain is above the largest one exactly while an undercut is in force. In every run from a new
engine it is above when a largest gain was set below it and no call since then has restored it. So a
captured frame that goes through a gain control that is on leaves the gain at most at the largest
one exactly when no undercut was in force, or the frame brings the gain down. -/
theorem withinBound_iff_not_undercut {blueprint : Blueprint} {created : Engine}
    (made : (create blueprint).1 = .ok created) (calls : List Call)
    (wellFormed : ∀ call ∈ calls, call.WellFormed) :
    let engine := (created.run calls).2
    let moments := created.moments calls
    (engine.rack.gainControl.WithinBound ↔ ¬ InForce Undercuts Restores moments) ∧
      ∀ frame, engine.rack.gainControl.enabled = true →
        (engine.capture frame).1.result = .ok () →
        ((engine.capture frame).1.state.rack.gainControl.WithinBound ↔
          ¬ InForce Undercuts Restores moments ∨ engine.BringsDown frame) := by
  have reached : (created.run calls).2.Reachable :=
    ⟨blueprint, calls, created, made, wellFormed, rfl⟩
  obtain ⟨format, supported, rfl⟩ := create_eq_ok made
  obtain ⟨start, within⟩ := gainKnown_blank blueprint.id supported
  have law := inForce_of_known_steps GainKnown Call.WellFormed
    (fun engine => ¬ engine.rack.gainControl.WithinBound) Undercuts Restores
    (fun _ _ allowed known => known.perform allowed) (fun _ _ known => withinBound_perform known)
    (blank blueprint.id format) calls wellFormed start
  have history : ((blank blueprint.id format).run calls).2.rack.gainControl.WithinBound ↔
      ¬ InForce Undercuts Restores ((blank blueprint.id format).moments calls) := by
    refine not_iff_not.mp (law.trans ?_)
    rw [not_not]
    exact or_iff_left fun fromStart => fromStart.1 within
  refine ⟨history, fun frame on done => ?_⟩
  rw [(withinBound_capture reached.gainKnown on done).2, history]

/-- Turns the gain control on, lets it amplify a silent frame by a fixed gain of 90 decibels, and
then lowers the largest gain to none. -/
def lowered : List Call :=
  [.enable .gainControl true, .adjust (.gainMode .fixedDigital), .adjust (.compressionGain 90),
    .capture (.silent 16000 1 160), .adjust (.compressionGain 0)]

/-- Behind that run an undercut is in force, and the next frame brings the gain down, because the
mode is still fixed. -/
theorem withinBound_iff_not_undercut_lowered :
    let engine := ((blank 0 {}).run lowered).2
    (create {}).1 = .ok (blank 0 {}) ∧ (∀ call ∈ lowered, call.WellFormed) ∧
      InForce Undercuts Restores ((blank 0 {}).moments lowered) ∧
      engine.rack.gainControl.enabled = true ∧
      (engine.capture (.silent 16000 1 160)).1.result = .ok () ∧
      (engine.capture (.silent 16000 1 160)).1.state.rack.gainControl.WithinBound := by
  have made : (create {}).1 = .ok (blank 0 {}) := rfl
  have wellFormed : ∀ call ∈ lowered, call.WellFormed := by decide +kernel
  obtain ⟨history, frames⟩ := withinBound_iff_not_undercut made lowered wellFormed
  have above : ¬ ((blank 0 {}).run lowered).2.rack.gainControl.WithinBound := by
    unfold GainControl.WithinBound
    decide +kernel
  have done : (((blank 0 {}).run lowered).2.capture (.silent 16000 1 160)).1.result = .ok () := rfl
  refine ⟨made, wellFormed, ?_, rfl, done, (frames _ rfl done).mpr (.inr (.inl rfl))⟩
  exact not_not.mp fun none => above (history.mpr none)

/-- The engine behind that run, with an adapted gain from there on. -/
def heldAbove : Engine := ((blank 0 {}).run (lowered ++ [.adjust (.gainMode .adaptiveDigital)])).2

/-- The next frame is silent and goes through with a gain above the largest one, which is none. -/
theorem not_withinBound_heldAbove :
    heldAbove.Reachable ∧ heldAbove.rack.gainControl.enabled = true ∧
      (heldAbove.capture (.silent 16000 1 160)).1.result = .ok () ∧
      (heldAbove.capture (.silent 16000 1 160)).1.state.rack.gainControl.compression = 0 ∧
      ¬ (heldAbove.capture (.silent 16000 1 160)).1.state.rack.gainControl.WithinBound := by
  have reached : heldAbove.Reachable :=
    ⟨{}, lowered ++ [.adjust (.gainMode .adaptiveDigital)], blank 0 {}, rfl, by decide +kernel, rfl⟩
  have done : (heldAbove.capture (.silent 16000 1 160)).1.result = .ok () := rfl
  refine ⟨reached, rfl, done, rfl, ?_⟩
  rw [(withinBound_capture reached.gainKnown rfl done).2, BringsDown, GainControl.WithinBound]
  -- The gain is too far above for any frame to bring it down, loud or quiet.
  rintro (within | fixed | ⟨-, near⟩)
  · exact absurd within (by decide +kernel)
  · cases fixed
  · exact absurd near (by decide +kernel)

end Engine

end VoiceEngine
