import VoiceEngine.Proofs.PerChannel
import VoiceEngine.Proofs.Refusals

/-!
# Where reports are used up

The echo canceller uses the report of the drift up as soon as it has found what it needs, in the
middle of a captured frame and even when it then refuses the frame. The gain control uses the report
of the volume up when it applies its gain, the last stage but one. No other stage touches either
flag, and behind the gain no stage fails. So the drift is used up when the stages before the echo
canceller pass, and the volume when all of them do.
-/

namespace VoiceEngine

/-- An echo canceller uses the drift up as soon as it is on and lacks no parameter. Whether its
state fits the frame is only found afterwards, so the drift is used up by a frame that is then
refused as well. -/
theorem EchoCanceller.driftIsSet_capture (effect : EchoCanceller) (delay : StreamDelay)
    (audio : StreamBuffer) :
    (effect.capture delay audio).effect.driftIsSet = true ↔ effect.driftIsSet = true ∧
      ¬ (effect.enabled = true ∧ effect.lacksParameter delay = false) := by
  simp only [capture]
  split
  case isTrue off =>
    have idle : effect.enabled = false := by simpa using off
    simp [Pass.done, idle]
  case isFalse on =>
    have enabled : effect.enabled = true := by simpa using on
    split
    case isTrue lacks => simp [Pass.refused, lacks]
    case isFalse complete =>
      have given : effect.lacksParameter delay = false := by simpa using complete
      have used : (effect.driftIsSet = true ∧
          ¬ (effect.enabled = true ∧ effect.lacksParameter delay = false)) ↔ False := by
        simp [enabled, given]
      rw [used, iff_false, Bool.not_eq_true]
      split
      case isTrue =>
        refine List.foldlRecOn (motive := fun now : EchoCanceller × StreamBuffer =>
          now.1.driftIsSet = false) audio.used _ rfl ?_
        rintro ⟨now, audio⟩ known index -
        simp only [cancelChannel]
        cases now.channels[index]? with
        | none => exact known
        | some channel => exact known
      case isFalse => rfl

/-- An echo canceller takes in a frame to the loudspeaker and keeps the report of the drift. -/
theorem EchoCanceller.driftIsSet_render {effect next : EchoCanceller} {audio : StreamBuffer}
    (taken : effect.render audio = .ok next) : next.driftIsSet = effect.driftIsSet := by
  simp only [render] at taken
  split at taken
  · cases taken
    rfl
  split at taken
  · cases taken
    rfl
  · cases taken

/-- A gain control uses the volume up when it is on and recommends volumes. When no volume was
reported it refuses, and there was none to use; so the report is down afterwards in both cases. -/
theorem GainControl.volumeIsSet_capture (effect : GainControl) (audio : StreamBuffer) :
    (effect.capture audio).effect.volumeIsSet = true ↔ effect.volumeIsSet = true ∧
      ¬ (effect.enabled = true ∧ effect.mode = .adaptiveAnalog) := by
  simp only [capture]
  split
  case isTrue off =>
    have idle : effect.enabled = false := by simpa using off
    simp [Pass.done, idle]
  case isFalse on =>
    have enabled : effect.enabled = true := by simpa using on
    split
    case isTrue lacks =>
      have missing : effect.volumeIsSet = false := by
        simp only [lacksVolume, Bool.and_eq_true, Bool.not_eq_true'] at lacks
        exact lacks.2
      simp [Pass.refused, missing]
    case isFalse =>
      split
      case isTrue analog => simp [Pass.done, enabled, analog]
      case isFalse other => simp [Pass.done, enabled, other]

namespace CaptureStage

/-- Running stages and then others is running them all, unless one of the first fails. This is how
the order is cut at the stage that a report is for. -/
theorem runEach_append (delay : StreamDelay) (stages others : List CaptureStage) (rack : Rack)
    (audio : StreamBuffer) :
    runEach delay (stages ++ others) rack audio =
      match runEach delay stages rack audio with
      | (none, rack, audio) => runEach delay others rack audio
      | (some failure, rack, audio) => (some failure, rack, audio) := by
  induction stages generalizing rack audio with
  | nil => rfl
  | cons stage stages inductionHypothesis =>
    simp only [List.cons_append, runEach]
    cases (stage.run delay rack audio).fault with
    | none => exact inductionHypothesis _ _
    | some fault => rfl

/-- What no stage of a list touches is untouched by all of them, also by those that run before one
that fails. -/
theorem runEach_keeps {Part : Type} (part : Rack → Part) (delay : StreamDelay)
    {stages : List CaptureStage}
    (kept : ∀ stage ∈ stages, ∀ rack audio, part (stage.run delay rack audio).effect = part rack)
    (rack : Rack) (audio : StreamBuffer) :
    part (runEach delay stages rack audio).2.1 = part rack := by
  induction stages generalizing rack audio with
  | nil => rfl
  | cons stage stages inductionHypothesis =>
    have first := kept stage List.mem_cons_self rack audio
    simp only [runEach]
    cases (stage.run delay rack audio).fault with
    | none =>
      refine (inductionHypothesis ?_ _ _).trans first
      exact fun other member => kept other (List.mem_cons_of_mem stage member)
    | some fault => exact first

/-- The other stages do not touch the echo canceller. -/
theorem echoCanceller_run_of_ne {stage : CaptureStage} (different : stage ≠ .echoCanceller)
    (delay : StreamDelay) (rack : Rack) (audio : StreamBuffer) :
    (stage.run delay rack audio).effect.echoCanceller = rack.echoCanceller := by
  cases stage with
  | echoCanceller => exact absurd rfl different
  | snapshot =>
    simp only [run]
    split <;> rfl
  | _ => rfl

/-- The other stages change no setting of the gain control. Measuring does write to it, but only
what it has measured. -/
theorem settings_gainControl_run_of_ne {stage : CaptureStage} (different : stage ≠ .applyGain)
    (delay : StreamDelay) (rack : Rack) (audio : StreamBuffer) :
    Configurable.settings (stage.run delay rack audio).effect.gainControl =
      Configurable.settings rack.gainControl := by
  cases stage with
  | applyGain => exact absurd rfl different
  | measureGain => exact GainControl.settings_measure rack.gainControl audio
  | snapshot =>
    simp only [run]
    split <;> rfl
  | _ => rfl

/-- The stages that come before the echo canceller. -/
def beforeEchoCanceller : List CaptureStage := order.takeWhile (· ≠ .echoCanceller)

/-- The stages that come after the echo canceller. -/
def behindEchoCanceller : List CaptureStage := (order.dropWhile (· ≠ .echoCanceller)).tail

/-- The stages that come before the gain is applied. -/
def beforeApplyGain : List CaptureStage := order.takeWhile (· ≠ .applyGain)

variable (delay : StreamDelay) (rack : Rack) (audio : StreamBuffer)

/-- The stages use the drift up when those before the echo canceller pass and the canceller is on
and lacks no parameter. The order is cut at its stage: neither part touches the canceller, so its
own stage decides, if it is reached. -/
theorem driftIsSet_runEach :
    (runEach delay order rack audio).2.1.echoCanceller.driftIsSet = true ↔
      rack.echoCanceller.driftIsSet = true ∧
        ¬ ((runEach delay beforeEchoCanceller rack audio).1 = none ∧
          rack.echoCanceller.enabled = true ∧ rack.echoCanceller.lacksParameter delay = false) := by
  have parts : order = beforeEchoCanceller ++ .echoCanceller :: behindEchoCanceller := rfl
  have elsewhere : ∀ stage ∈ beforeEchoCanceller, stage ≠ .echoCanceller := by decide
  have early := runEach_keeps Rack.echoCanceller delay
    (fun stage member => echoCanceller_run_of_ne (elsewhere stage member) delay) rack audio
  rw [parts, runEach_append]
  rcases outcome : runEach delay beforeEchoCanceller rack audio with ⟨failure, reached, heard⟩
  rw [outcome] at early
  cases failure with
  | some failure =>
    dsimp only at early
    simp [early]
  | none =>
    dsimp only at early
    have used := EchoCanceller.driftIsSet_capture reached.echoCanceller delay heard
    have late : ∀ stage ∈ behindEchoCanceller, stage ≠ .echoCanceller := by decide
    simp only [runEach, true_and]
    rw [← early, ← used]
    split
    case h_1 =>
      rw [runEach_keeps Rack.echoCanceller delay
        fun stage member => echoCanceller_run_of_ne (late stage member) delay]
      rfl
    case h_2 => rfl

/-- The stages use the volume up when all of them pass and the gain control is on and recommends
volumes: behind the stage that applies the gain no stage fails, and where that stage fails there was
no volume to use. Only settings are compared up to that stage, since measuring changes the rest. -/
theorem volumeIsSet_runEach :
    (runEach delay order rack audio).2.1.gainControl.volumeIsSet = true ↔
      rack.gainControl.volumeIsSet = true ∧
        ¬ ((runEach delay order rack audio).1 = none ∧
          rack.gainControl.enabled = true ∧ rack.gainControl.mode = .adaptiveAnalog) := by
  have parts : order = beforeApplyGain ++ [.applyGain, .levelMeter] := rfl
  have elsewhere : ∀ stage ∈ beforeApplyGain, stage ≠ .applyGain := by decide
  have early := runEach_keeps (fun rack => Configurable.settings rack.gainControl) delay
    (fun stage member => settings_gainControl_run_of_ne (elsewhere stage member) delay) rack audio
  rw [parts, runEach_append]
  rcases outcome : runEach delay beforeApplyGain rack audio with ⟨failure, reached, heard⟩
  rw [outcome] at early
  have enabled : reached.gainControl.enabled = rack.gainControl.enabled :=
    (congrArg GainControl.enabled early :)
  have mode : reached.gainControl.mode = rack.gainControl.mode :=
    (congrArg GainControl.mode early :)
  have reported : reached.gainControl.volumeIsSet = rack.gainControl.volumeIsSet :=
    (congrArg GainControl.volumeIsSet early :)
  cases failure with
  | some failure => simp [reported]
  | none =>
    have used := GainControl.volumeIsSet_capture reached.gainControl heard
    have fault := GainControl.fault_capture reached.gainControl heard
    rw [enabled, mode, reported] at used
    simp only [runEach, run, Pass.fault_done]
    cases refused : (reached.gainControl.capture heard).fault with
    | none => simpa [Pass.done] using used
    | some cause =>
      have lacks : reached.gainControl.lacksVolume = true := by
        rw [refused] at fault
        split at fault
        case isTrue both => exact both.2
        case isFalse => cases fault
      have missing : rack.gainControl.volumeIsSet = false := by
        rw [← reported]
        simp only [GainControl.lacksVolume, Bool.and_eq_true, Bool.not_eq_true'] at lacks
        exact lacks.2
      simpa [missing] using used

end CaptureStage

namespace RenderStage

/-- What every stage keeps of a rack is kept by the stages in a row, also when one fails. -/
theorem runEach_keeps {Part : Type} (part : Rack → Part) (audio : StreamBuffer)
    (kept : ∀ (stage : RenderStage) rack next, stage.run rack audio = .ok next →
      part next = part rack)
    (stages : List RenderStage) (rack : Rack) :
    part (runEach audio stages rack).2 = part rack := by
  induction stages generalizing rack with
  | nil => rfl
  | cons stage stages inductionHypothesis =>
    simp only [runEach]
    cases done : stage.run rack audio with
    | error fault => rfl
    | ok next => exact (inductionHypothesis next).trans (kept stage rack next done)

/-- A frame to the loudspeaker uses neither the drift nor the volume up: both effects listen to it
and write down only what they hear. -/
theorem reports_runEach (audio : StreamBuffer) (stages : List RenderStage) (rack : Rack) :
    (runEach audio stages rack).2.echoCanceller.driftIsSet = rack.echoCanceller.driftIsSet ∧
      (runEach audio stages rack).2.gainControl.volumeIsSet = rack.gainControl.volumeIsSet := by
  have kept := runEach_keeps
    (fun rack => (rack.echoCanceller.driftIsSet, rack.gainControl.volumeIsSet)) audio
    (fun stage rack next done => by
      cases stage with
      | echoCanceller =>
        obtain ⟨effect, taken, rfl⟩ := exists_of_map_eq_ok done
        exact Prod.ext (EchoCanceller.driftIsSet_render taken) rfl
      | mobileEchoControl =>
        obtain ⟨effect, taken, rfl⟩ := exists_of_map_eq_ok done
        rfl
      | gainControl =>
        cases done
        have same := GainControl.settings_render rack.gainControl audio
        exact Prod.ext rfl (congrArg GainControl.volumeIsSet same :)
      | levelMeter =>
        cases done
        rfl) stages rack
  exact Prod.mk.inj kept

end RenderStage

end VoiceEngine
