import VoiceEngine.Pipeline
import VoiceEngine.Proofs.Passes

/-!
# When a stage refuses

Whether a stage refuses is known before any stage runs. It depends on the effect of the stage,
on the reported delay, and on the number of channels and the length of the bands of the audio,
and none of the other stages changes any of these. The fault of a whole pipeline is therefore
the first refusal in the order of its stages.
-/

namespace VoiceEngine

/-- The high-pass filter refuses more channels than it has filters for. It has one for each channel
of the format it was made for. -/
theorem HighPass.fault_capture (effect : HighPass) (audio : StreamBuffer) :
    (effect.capture audio).fault =
      if effect.enabled = true ∧ effect.filters.length < audio.channelCount then
        some .unspecified
      else none := by
  simp only [capture]
  by_cases enabled : effect.enabled = true
  · by_cases few : effect.filters.length < audio.channelCount
    · simp [enabled, few]
    · simp [enabled, few]
  · simp [enabled]

/-- The noise suppressor refuses more channels than it has states for. -/
theorem NoiseSuppressor.fault_capture (effect : NoiseSuppressor) (audio : StreamBuffer) :
    (effect.capture audio).fault =
      if effect.enabled = true ∧ effect.channels.length < audio.channelCount then
        some .unspecified
      else none := by
  simp only [capture]
  by_cases enabled : effect.enabled = true
  · by_cases few : effect.channels.length < audio.channelCount
    · simp [enabled, few]
    · simp [enabled, few]
  · simp [enabled]

/-- The echo canceller refuses a frame for which a parameter is missing, and otherwise one for
which its state is too small. -/
theorem EchoCanceller.fault_capture (effect : EchoCanceller) (delay : StreamDelay)
    (audio : StreamBuffer) :
    (effect.capture delay audio).fault =
      if effect.enabled = true ∧ effect.lacksParameter delay = true then some .parameterNotSet
      else if effect.enabled = true ∧ ¬ (effect.farEnd.Fits audio.bandLength ∧
          audio.channelCount ≤ effect.channels.length) then
        some .unspecified
      else none := by
  simp only [capture]
  by_cases enabled : effect.enabled = true
  · by_cases lacks : effect.lacksParameter delay = true
    · simp [enabled, lacks]
    · by_cases fits : effect.farEnd.Fits audio.bandLength ∧
          audio.channelCount ≤ effect.channels.length
      · simp [enabled, lacks, fits]
      · simp [enabled, lacks, fits]
  · simp [enabled]

/-- Mobile echo control refuses a frame for which no delay was reported, and otherwise one for
which its state is too small. -/
theorem MobileEchoControl.fault_capture (effect : MobileEchoControl) (delay : StreamDelay)
    (audio : StreamBuffer) :
    (effect.capture delay audio).fault =
      if effect.enabled = true ∧ delay.isSet = false then some .parameterNotSet
      else if effect.enabled = true ∧ ¬ (effect.farEnd.Fits audio.bandLength ∧
          audio.channelCount ≤ effect.channels.length) then
        some .unspecified
      else none := by
  simp only [capture]
  by_cases enabled : effect.enabled = true
  · by_cases reported : delay.isSet = true
    · by_cases fits : effect.farEnd.Fits audio.bandLength ∧
          audio.channelCount ≤ effect.channels.length
      · simp [enabled, reported, fits]
      · simp [enabled, reported, fits]
    · simp [enabled, reported]
  · simp [enabled]

/-- Gain control refuses to apply its gain when a volume is missing. It keeps nothing for a channel,
so no format is foreign to it. -/
theorem GainControl.fault_capture (effect : GainControl) (audio : StreamBuffer) :
    (effect.capture audio).fault =
      if effect.enabled = true ∧ effect.lacksVolume = true then some .parameterNotSet
      else none := by
  simp only [capture]
  by_cases enabled : effect.enabled = true
  · by_cases lacks : effect.lacksVolume = true
    · simp [enabled, lacks]
    · simp [enabled, lacks]
  · simp [enabled]

/-- A search that finds the same at every entry finds the same. -/
theorem findSome?_congr {Entry Found : Type} {entries : List Entry}
    {first second : Entry → Option Found}
    (same : ∀ entry ∈ entries, first entry = second entry) :
    entries.findSome? first = entries.findSome? second := by
  induction entries with
  | nil => rfl
  | cons entry rest inductionHypothesis =>
    have later := inductionHypothesis fun other member =>
      same other (List.mem_cons_of_mem entry member)
    rw [List.findSome?_cons, List.findSome?_cons, same entry List.mem_cons_self, later]

namespace CaptureStage

/-- The order leaves no stage out. -/
theorem mem_order (stage : CaptureStage) : stage ∈ order := by
  cases stage <;> decide

/-- A stage lacks a parameter that its effect needs with every captured frame. Only the two echo
effects and gain control need any. -/
def Lacks (delay : StreamDelay) (rack : Rack) : CaptureStage → Prop
  | echoCanceller =>
    rack.echoCanceller.enabled = true ∧ rack.echoCanceller.lacksParameter delay = true
  | mobileEchoControl => rack.mobileEchoControl.enabled = true ∧ delay.isSet = false
  | applyGain => rack.gainControl.enabled = true ∧ rack.gainControl.lacksVolume = true
  | highPass | measureGain | snapshot | noiseSuppressor | voiceDetector | levelMeter => False

/-- The effect of a stage is on but its state does not take so many channels of bands of one
length. -/
def Misfits (rack : Rack) (bandLength channelCount : Nat) : CaptureStage → Prop
  | highPass =>
    rack.highPass.enabled = true ∧ rack.highPass.filters.length < channelCount
  | noiseSuppressor =>
    rack.noiseSuppressor.enabled = true ∧ rack.noiseSuppressor.channels.length < channelCount
  | echoCanceller =>
    rack.echoCanceller.enabled = true ∧ ¬ (rack.echoCanceller.farEnd.Fits bandLength ∧
      channelCount ≤ rack.echoCanceller.channels.length)
  | mobileEchoControl =>
    rack.mobileEchoControl.enabled = true ∧ ¬ (rack.mobileEchoControl.farEnd.Fits bandLength ∧
      channelCount ≤ rack.mobileEchoControl.channels.length)
  | measureGain | snapshot | voiceDetector | applyGain | levelMeter => False

instance (delay : StreamDelay) (rack : Rack) (stage : CaptureStage) :
    Decidable (stage.Lacks delay rack) := by
  cases stage <;> unfold Lacks <;> infer_instance

instance (rack : Rack) (bandLength channelCount : Nat) (stage : CaptureStage) :
    Decidable (stage.Misfits rack bandLength channelCount) := by
  cases stage <;> unfold Misfits <;> infer_instance

/-- Why a stage refuses so many channels of bands of one length. A parameter that is missing is
found before a state that was made for another format. -/
def refusal (delay : StreamDelay) (rack : Rack) (bandLength channelCount : Nat)
    (stage : CaptureStage) : Option Fault :=
  if stage.Lacks delay rack then some .parameterNotSet
  else if stage.Misfits rack bandLength channelCount then some .unspecified
  else none

/-- A stage does not refuse when it lacks nothing and its state takes the audio. -/
theorem refusal_eq_none_iff {delay : StreamDelay} {rack : Rack} {bandLength channelCount : Nat}
    {stage : CaptureStage} :
    stage.refusal delay rack bandLength channelCount = none ↔
      ¬ stage.Lacks delay rack ∧ ¬ stage.Misfits rack bandLength channelCount := by
  simp only [refusal]
  by_cases lacks : stage.Lacks delay rack
  · simp [lacks]
  · by_cases misfits : stage.Misfits rack bandLength channelCount
    · simp [lacks, misfits]
    · simp [lacks, misfits]

variable (delay : StreamDelay) (rack : Rack) (audio : StreamBuffer)

/-- Every stage refuses for that reason. -/
theorem fault_run (stage : CaptureStage) :
    (stage.run delay rack audio).fault =
      stage.refusal delay rack audio.bandLength audio.channelCount := by
  simp only [refusal]
  cases stage with
  | highPass =>
    rw [if_neg (show ¬ Lacks delay rack highPass from id)]
    exact HighPass.fault_capture rack.highPass audio
  | measureGain => rfl
  | echoCanceller => exact EchoCanceller.fault_capture rack.echoCanceller delay audio
  | snapshot =>
    simp only [run]
    split <;> rfl
  | noiseSuppressor =>
    rw [if_neg (show ¬ Lacks delay rack noiseSuppressor from id)]
    exact NoiseSuppressor.fault_capture rack.noiseSuppressor audio
  | mobileEchoControl =>
    exact MobileEchoControl.fault_capture rack.mobileEchoControl delay audio
  | voiceDetector => rfl
  | applyGain => exact GainControl.fault_capture rack.gainControl audio
  | levelMeter => rfl

/-- A stage leaves every other stage as ready as it was. Gain control has two stages, but the first
of them never refuses and does not make the second refuse. The cases are the stages that run, and
for each of them the ones that could refuse later. -/
theorem refusal_run_of_ne {stage other : CaptureStage} (different : other ≠ stage)
    (bandLength channelCount : Nat) :
    other.refusal delay (stage.run delay rack audio).effect bandLength channelCount =
      other.refusal delay rack bandLength channelCount := by
  cases stage with
  | snapshot =>
    simp only [run]
    split <;> rfl
  | measureGain =>
    cases other with
    | applyGain =>
      simp only [run, refusal, GainControl.measure]
      dsimp only [Pass.done]
      split <;> rfl
    | _ => rfl
  | _ => cases other <;> first | rfl | exact absurd rfl different

/-- A stage leaves the rack switched and made as it was, and keeps the shape of the audio. -/
theorem run_alike (stage : CaptureStage) :
    rack.Alike (stage.run delay rack audio).effect ∧
      audio.Alike (stage.run delay rack audio).audio := by
  cases stage with
  | highPass =>
    obtain ⟨⟨enabled, made⟩, shape⟩ := HighPass.capture_alike rack.highPass audio
    exact ⟨rack.alike_highPass enabled made, shape⟩
  | measureGain =>
    have enabled := GainControl.enabled_measure rack.gainControl audio
    exact ⟨rack.alike_gainControl enabled, StreamBuffer.Alike.refl audio⟩
  | echoCanceller =>
    obtain ⟨⟨enabled, -⟩, shape⟩ := EchoCanceller.capture_alike rack.echoCanceller delay audio
    exact ⟨rack.alike_echoCanceller enabled fun _ =>
      EchoCanceller.capture_madeFor rack.echoCanceller delay audio, shape⟩
  | snapshot =>
    simp only [run]
    split
    · exact ⟨Rack.Alike.refl rack, ⟨rfl, rfl, fun _ shaped => shaped.takeSnapshot⟩⟩
    · exact ⟨Rack.Alike.refl rack, StreamBuffer.Alike.refl audio⟩
  | noiseSuppressor =>
    obtain ⟨⟨enabled, count⟩, shape⟩ := NoiseSuppressor.capture_alike rack.noiseSuppressor audio
    exact ⟨rack.alike_noiseSuppressor enabled fun _ => count.trans, shape⟩
  | mobileEchoControl =>
    obtain ⟨⟨enabled, -⟩, shape⟩ :=
      MobileEchoControl.capture_alike rack.mobileEchoControl delay audio
    exact ⟨rack.alike_mobileEchoControl enabled fun _ =>
      MobileEchoControl.capture_madeFor rack.mobileEchoControl delay audio, shape⟩
  | voiceDetector =>
    have enabled := VoiceDetector.enabled_capture rack.voiceDetector audio
    exact ⟨rack.alike_voiceDetector enabled, StreamBuffer.Alike.refl audio⟩
  | applyGain =>
    obtain ⟨enabled, shape⟩ := GainControl.capture_alike rack.gainControl audio
    exact ⟨rack.alike_gainControl enabled, shape⟩
  | levelMeter =>
    have enabled := LevelMeter.enabled_capture rack.levelMeter audio
    exact ⟨rack.alike_levelMeter enabled, StreamBuffer.Alike.refl audio⟩

/-- Stages leave the rack switched and made as it was, and keep the shape of the audio, wherever the
row ends. -/
theorem runEach_alike (stages : List CaptureStage) :
    rack.Alike (runEach delay stages rack audio).2.1 ∧
      audio.Alike (runEach delay stages rack audio).2.2 := by
  induction stages generalizing rack audio with
  | nil => exact ⟨Rack.Alike.refl rack, StreamBuffer.Alike.refl audio⟩
  | cons stage stages inductionHypothesis =>
    have first := run_alike delay rack audio stage
    simp only [runEach]
    split
    case h_1 =>
      have later := inductionHypothesis (stage.run delay rack audio).effect
        (stage.run delay rack audio).audio
      exact ⟨first.1.trans later.1, first.2.trans later.2⟩
    case h_2 => exact first

/-- Different stages in a row fail with the first refusal among them, as it was before any of
them ran. Induct along the stages: the one that runs changes neither the refusals of those still
to come, which are other stages, nor the number of channels and the length of the bands. -/
theorem runEach_fault (stages : List CaptureStage) (distinct : stages.Nodup) :
    (runEach delay stages rack audio).1 = stages.findSome? fun stage =>
      (stage.refusal delay rack audio.bandLength audio.channelCount).map (stage, ·) := by
  induction stages generalizing rack audio with
  | nil => rfl
  | cons stage stages inductionHypothesis =>
    obtain ⟨new, others⟩ := List.nodup_cons.mp distinct
    have shape := (run_alike delay rack audio stage).2
    simp only [runEach]
    rw [List.findSome?_cons, ← fault_run]
    cases fault : (stage.run delay rack audio).fault with
    | some fault => rfl
    | none =>
      dsimp only [Option.map_none]
      rw [inductionHypothesis _ _ others, shape.bandLength, shape.channelCount]
      refine findSome?_congr ?_
      intro other member
      have different : other ≠ stage := by
        rintro rfl
        exact new member
      rw [refusal_run_of_ne delay rack audio different]

end CaptureStage

namespace RenderStage

/-- Why a stage refuses bands of one length. -/
def refusal (rack : Rack) (bandLength : Nat) : RenderStage → Option Fault
  | echoCanceller =>
    if rack.echoCanceller.enabled ∧ ¬ rack.echoCanceller.farEnd.Fits bandLength then
      some .unspecified
    else none
  | mobileEchoControl =>
    if rack.mobileEchoControl.enabled ∧ ¬ rack.mobileEchoControl.farEnd.Fits bandLength then
      some .unspecified
    else none
  | gainControl | levelMeter => none

variable (rack : Rack) (audio : StreamBuffer)

/-- A stage that does not refuse leaves a rack, and a stage that refuses names its fault. On this
side a stage has nothing else to give back. -/
theorem run_eq (stage : RenderStage) :
    match stage.refusal rack audio.bandLength with
    | some fault => stage.run rack audio = .error fault
    | none => ∃ next, stage.run rack audio = .ok next := by
  cases stage with
  | echoCanceller =>
    simp only [refusal, run, EchoCanceller.render_eq, FarEnd.intake_eq]
    by_cases refused : rack.echoCanceller.enabled = true ∧
        ¬ rack.echoCanceller.farEnd.Fits audio.bandLength
    · simp only [if_pos refused, Except.map]
    · simp [if_neg refused, Except.map]
  | mobileEchoControl =>
    simp only [refusal, run, MobileEchoControl.render_eq, FarEnd.intake_eq]
    by_cases refused : rack.mobileEchoControl.enabled = true ∧
        ¬ rack.mobileEchoControl.farEnd.Fits audio.bandLength
    · simp only [if_pos refused, Except.map]
    · simp [if_neg refused, Except.map]
  | gainControl => exact ⟨_, rfl⟩
  | levelMeter => exact ⟨_, rfl⟩

/-- A stage that does not refuse leaves the rack switched and made as it was. -/
theorem run_alike {rack next : Rack} {audio : StreamBuffer} {stage : RenderStage}
    (done : stage.run rack audio = .ok next) : rack.Alike next := by
  cases stage with
  | echoCanceller =>
    obtain ⟨effect, taken, rfl⟩ := exists_of_map_eq_ok done
    obtain ⟨enabled, made⟩ := EchoCanceller.render_alike taken
    exact rack.alike_echoCanceller enabled made
  | mobileEchoControl =>
    obtain ⟨effect, taken, rfl⟩ := exists_of_map_eq_ok done
    obtain ⟨enabled, made⟩ := MobileEchoControl.render_alike taken
    exact rack.alike_mobileEchoControl enabled made
  | gainControl =>
    cases done
    exact rack.alike_gainControl (GainControl.enabled_render rack.gainControl audio)
  | levelMeter =>
    cases done
    exact rack.alike_levelMeter (LevelMeter.enabled_render rack.levelMeter audio)

/-- A stage leaves every other stage as ready as it was. -/
theorem refusal_run_of_ne {rack next : Rack} {audio : StreamBuffer} {stage other : RenderStage}
    (done : stage.run rack audio = .ok next) (different : other ≠ stage) (bandLength : Nat) :
    other.refusal next bandLength = other.refusal rack bandLength := by
  cases stage with
  | echoCanceller =>
    obtain ⟨effect, taken, rfl⟩ := exists_of_map_eq_ok done
    cases other <;> first | rfl | exact absurd rfl different
  | mobileEchoControl =>
    obtain ⟨effect, taken, rfl⟩ := exists_of_map_eq_ok done
    cases other <;> first | rfl | exact absurd rfl different
  | gainControl =>
    cases done
    cases other <;> rfl
  | levelMeter =>
    cases done
    cases other <;> rfl

/-- Stages leave the rack switched and made as it was. -/
theorem runEach_alike (stages : List RenderStage) :
    rack.Alike (runEach audio stages rack).2 := by
  induction stages generalizing rack with
  | nil => exact Rack.Alike.refl rack
  | cons stage stages inductionHypothesis =>
    simp only [runEach]
    cases done : stage.run rack audio with
    | ok next => exact (run_alike done).trans (inductionHypothesis next)
    | error fault => exact Rack.Alike.refl rack

/-- Different stages in a row fail with the first refusal among them, as it was before any of
them ran. -/
theorem runEach_fault (stages : List RenderStage) (distinct : stages.Nodup) :
    (runEach audio stages rack).1 = stages.findSome? fun stage =>
      (stage.refusal rack audio.bandLength).map (stage, ·) := by
  induction stages generalizing rack with
  | nil => rfl
  | cons stage stages inductionHypothesis =>
    obtain ⟨new, others⟩ := List.nodup_cons.mp distinct
    have outcome := run_eq rack audio stage
    simp only [runEach]
    rw [List.findSome?_cons]
    cases reason : stage.refusal rack audio.bandLength with
    | some fault =>
      simp only [reason] at outcome
      rw [outcome]
      rfl
    | none =>
      simp only [reason] at outcome
      obtain ⟨next, done⟩ := outcome
      rw [done]
      dsimp only [Option.map_none]
      rw [inductionHypothesis next others]
      refine findSome?_congr ?_
      intro other member
      have different : other ≠ stage := by
        rintro rfl
        exact new member
      rw [refusal_run_of_ne done different]

end RenderStage

end VoiceEngine
