import VoiceEngine.Proofs.Readiness

/-!
# Effects that outlive their format

A change of format is kept even when an effect refuses it, and the effects behind the one that
refused are then not prepared. What they hold was made for an earlier format. The only thing that
keeps such state from being used is the size check that an effect makes with every frame.

A run is remembered by its `Past`: whether the latest start answered, and for which format each
effect was prepared last. Two relations between formats decide the rest. `EffectKind.Admits` says
that the size check of an effect made for one format lets frames of another pass, and
`EffectKind.Suits` that the state made for one format is the state for another. Admitting is
weaker: bands at 32000 samples a second are as long as those at 16000, and more filters than
channels pass as well as enough of them. Between the two lies exactly the stale state that a
successful capture can use.
-/

namespace VoiceEngine

namespace EffectKind

/-- The size check of an effect that was made for one format lets frames of another pass. -/
def Admits (made format : Format) : EffectKind → Prop
  | echoCanceller | mobileEchoControl =>
    made.bandLength = format.bandLength ∧ format.outputChannels ≤ made.outputChannels
  | highPass | noiseSuppressor => format.outputChannels ≤ made.outputChannels
  | gainControl | levelMeter | voiceDetector => True

/-- The state of an effect that was made for one format is the state for another. -/
def Suits (made format : Format) : EffectKind → Prop
  | echoCanceller | highPass =>
    made.rate.bandHz = format.rate.bandHz ∧ made.outputChannels = format.outputChannels
  | mobileEchoControl =>
    format.rate.isSplit = false ∧ made.rate.bandHz = format.rate.bandHz ∧
      made.outputChannels = format.outputChannels
  | noiseSuppressor => made.outputChannels = format.outputChannels
  | gainControl | levelMeter | voiceDetector => True

instance (made format : Format) (kind : EffectKind) : Decidable (kind.Admits made format) := by
  cases kind <;> unfold Admits <;> infer_instance

instance (made format : Format) (kind : EffectKind) : Decidable (kind.Suits made format) := by
  cases kind <;> unfold Suits <;> infer_instance

end EffectKind

/-- Formats with bands of one rate have the same number of values in a millisecond and in a
band. -/
theorem SampleRate.sizes_of_bandHz {first second : SampleRate}
    (same : first.bandHz = second.bandHz) :
    first.bandSamplesPerMs = second.bandSamplesPerMs ∧ first.bandLength = second.bandLength := by
  simp only [bandSamplesPerMs, bandLength]
  rw [same]
  exact ⟨rfl, rfl⟩

/-- The number of values in a millisecond tells the rate of a band. -/
theorem SampleRate.bandHz_of_sizes {first second : SampleRate}
    (same : first.bandSamplesPerMs = second.bandSamplesPerMs) :
    first.bandHz = second.bandHz := by
  cases first <;> cases second <;> first | rfl | (revert same; decide)

/-- Every rate has its own coefficients. -/
theorem HighPass.bandHz_of_coefficients {first second : SampleRate}
    (same : coefficientsFor first.bandHz = coefficientsFor second.bandHz) :
    first.bandHz = second.bandHz := by
  cases first <;> cases second <;> first | rfl | (revert same; decide)

namespace FarEnd

variable {farEnd : FarEnd} {made format : Format} {filterMs : Nat}

/-- A history that was made for one format fits frames of another with bands of that length. -/
theorem MadeFor.fits_iff (known : farEnd.MadeFor made filterMs) :
    farEnd.Fits format.bandLength ↔ made.bandLength = format.bandLength := by
  have total : farEnd.history.length = farEnd.maxDelay + farEnd.taps + made.bandLength :=
    known.fits
  simp only [Fits, span]
  omega

/-- A history that was made for one format is the one for another with bands of that rate. -/
theorem MadeFor.iff (known : farEnd.MadeFor made filterMs) :
    farEnd.MadeFor format filterMs ↔ made.rate.bandHz = format.rate.bandHz := by
  constructor
  · intro also
    exact SampleRate.bandHz_of_sizes (known.samplesPerMs.symm.trans also.samplesPerMs)
  · intro same
    obtain ⟨values, length⟩ := SampleRate.sizes_of_bandHz same
    exact ⟨values ▸ known.samplesPerMs, values ▸ known.maxDelay, values ▸ known.taps,
      known.fits_iff.mpr length⟩

end FarEnd

namespace Rack

variable {rack : Rack} {made format : Format} {kind : EffectKind}

/-- The size check of an effect lets frames of a format pass. -/
def Admits (rack : Rack) (format : Format) : EffectKind → Prop
  | .echoCanceller =>
    rack.echoCanceller.farEnd.Fits format.bandLength ∧
      format.outputChannels ≤ rack.echoCanceller.channels.length
  | .mobileEchoControl =>
    rack.mobileEchoControl.farEnd.Fits format.bandLength ∧
      format.outputChannels ≤ rack.mobileEchoControl.channels.length
  | .highPass => format.outputChannels ≤ rack.highPass.filters.length
  | .noiseSuppressor => format.outputChannels ≤ rack.noiseSuppressor.channels.length
  | .gainControl | .levelMeter | .voiceDetector => True

/-- What an effect was made for tells which formats its size check admits. -/
theorem admits_iff (known : rack.MadeFor made kind) :
    rack.Admits format kind ↔ kind.Admits made format := by
  cases kind with
  | echoCanceller =>
    obtain ⟨farEnd, count⟩ := known
    simp only [Admits, EffectKind.Admits]
    rw [farEnd.fits_iff, count]
  | mobileEchoControl =>
    obtain ⟨-, farEnd, count⟩ := known
    simp only [Admits, EffectKind.Admits]
    rw [farEnd.fits_iff, count]
  | highPass =>
    simp only [Admits, EffectKind.Admits]
    rw [known.1]
  | noiseSuppressor =>
    have count : rack.noiseSuppressor.channels.length = made.outputChannels := known
    simp only [Admits, EffectKind.Admits]
    rw [count]
  | _ => exact Iff.rfl

/-- What an effect was made for tells for which formats its state is the right one. -/
theorem madeFor_iff (known : rack.MadeFor made kind) (leaves : 1 ≤ format.outputChannels) :
    rack.MadeFor format kind ↔ kind.Suits made format := by
  cases kind with
  | echoCanceller =>
    obtain ⟨farEnd, count⟩ := known
    simp only [MadeFor, EffectKind.Suits, EchoCanceller.MadeFor]
    rw [farEnd.iff, count]
  | mobileEchoControl =>
    obtain ⟨-, farEnd, count⟩ := known
    simp only [MadeFor, EffectKind.Suits, MobileEchoControl.MadeFor]
    rw [farEnd.iff, count]
  | highPass =>
    obtain ⟨count, current⟩ := known
    simp only [MadeFor, EffectKind.Suits, HighPass.MadeFor]
    rw [count]
    constructor
    · rintro ⟨sameCount, also⟩
      refine ⟨?_, sameCount⟩
      have inside : 0 < rack.highPass.filters.length := by omega
      have member := List.getElem_mem inside
      exact HighPass.bandHz_of_coefficients ((current _ member).symm.trans (also _ member))
    · rintro ⟨sameRate, sameCount⟩
      refine ⟨sameCount, ?_⟩
      rw [← sameRate]
      exact current
  | noiseSuppressor =>
    have count : rack.noiseSuppressor.channels.length = made.outputChannels := known
    simp only [MadeFor, EffectKind.Suits, NoiseSuppressor.MadeFor]
    rw [count]
  | _ => exact Iff.rfl

/-- The effects behind the stages take the captured frames of a format exactly when the size check
of every effect that is on admits it. -/
theorem not_misfits_iff :
    (∀ stage : CaptureStage, ¬ stage.Misfits rack format.bandLength format.outputChannels) ↔
      ∀ kind, rack.isEnabled kind = true → rack.Admits format kind := by
  constructor
  · intro takes kind enabled
    cases kind with
    | echoCanceller =>
      refine Classical.not_not.mp ?_
      intro unfit
      exact takes .echoCanceller ⟨enabled, unfit⟩
    | mobileEchoControl =>
      refine Classical.not_not.mp ?_
      intro unfit
      exact takes .mobileEchoControl ⟨enabled, unfit⟩
    | highPass => exact Nat.not_lt.mp fun few => takes .highPass ⟨enabled, few⟩
    | noiseSuppressor => exact Nat.not_lt.mp fun few => takes .noiseSuppressor ⟨enabled, few⟩
    | _ => trivial
  · intro admits stage misfits
    cases stage with
    | echoCanceller => exact misfits.2 (admits .echoCanceller misfits.1)
    | mobileEchoControl => exact misfits.2 (admits .mobileEchoControl misfits.1)
    | highPass => exact Nat.not_lt.mpr (admits .highPass misfits.1) misfits.2
    | noiseSuppressor => exact Nat.not_lt.mpr (admits .noiseSuppressor misfits.1) misfits.2
    | _ => exact misfits

/-- No stage refuses a captured frame of a format exactly when no stage lacks a parameter and the
size check of every effect that is on admits the format. -/
theorem refusals_eq_none_iff (delay : StreamDelay) :
    (∀ stage : CaptureStage, stage.refusal delay rack format.bandLength format.outputChannels =
      none) ↔
      (∀ stage : CaptureStage, ¬ stage.Lacks delay rack) ∧
        ∀ kind, rack.isEnabled kind = true → rack.Admits format kind := by
  rw [← not_misfits_iff, ← forall_and]
  exact forall_congr' fun stage => CaptureStage.refusal_eq_none_iff

end Rack

/-- What is remembered of a run: whether its latest start answered, and for which format each
effect was prepared last. -/
structure Past where
  clean : Bool := true
  lastPrepared : EffectKind → Option Format := fun _ => none

namespace Engine

/-- Whether a call prepares an effect that is on: starting anew prepares those up to the one that
refuses, and an effect is prepared when it goes on. -/
def prepares (engine : Engine) (call : Call) (kind : EffectKind) : Bool :=
  match call.target? engine.format, call with
  | some (.ok format), _ =>
    engine.rack.isEnabled kind &&
      decide (kind ∈ Rack.preparedBy EffectKind.all
        (engine.rack.prepareEach format EffectKind.all).1)
  | none, .enable switched true =>
    decide (switched = kind) && !engine.rack.isEnabled kind && (engine.perform call).result.isOk
  | _, _ => false

/-- A call that starts the engine anew prepares the effects that are on, up to one that refuses. -/
theorem prepares_of_target {engine : Engine} {call : Call} {format : Format}
    (target : call.target? engine.format = some (.ok format)) (kind : EffectKind) :
    engine.prepares call kind = (engine.rack.isEnabled kind &&
      decide (kind ∈ Rack.preparedBy EffectKind.all
        (engine.rack.prepareEach format EffectKind.all).1)) := by
  simp only [prepares]
  rw [target]

/-- A call that is refused for the format it asks for prepares none. -/
theorem prepares_of_target_error {engine : Engine} {call : Call} {cause : FormatError}
    (target : call.target? engine.format = some (.error cause)) (kind : EffectKind) :
    engine.prepares call kind = false := by
  simp only [prepares]
  rw [target]

end Engine

/-- The past after one more call. Effects are prepared for the format that the call leaves. -/
def Past.after (past : Past) (engine : Engine) (call : Call) : Past :=
  { clean := Engine.cleanliness past.clean engine call
    lastPrepared := fun kind =>
      if engine.prepares call kind then some (engine.perform call).state.format
      else past.lastPrepared kind }

/-- What the past tells of an engine. Every effect that is on was prepared, and is made for the
format of that time. As long as the run is clean this is the format at hand, and a run that is
not clean was left at a rate that is split. -/
structure Past.Tells (past : Past) (engine : Engine) : Prop where
  stored : engine.Stored
  made : ∀ kind, engine.rack.isEnabled kind = true →
    ∃ format, past.lastPrepared kind = some format ∧ engine.rack.MadeFor format kind
  current : past.clean = true → ∀ kind, engine.rack.isEnabled kind = true →
    past.lastPrepared kind = some engine.format
  split : past.clean = false → engine.format.rate.isSplit = true

namespace Engine

variable {past : Past} {engine : Engine} {call : Call}

/-- A start leaves a run clean exactly when no effect refused. -/
theorem cleanliness_of_target {format : Format} (clean : Bool)
    (target : call.target? engine.format = some (.ok format)) :
    cleanliness clean engine call = true ↔
      (engine.rack.prepareEach format EffectKind.all).1 = none := by
  simp only [cleanliness]
  rw [target, perform_of_target target]
  dsimp only [replying]
  rw [restart_result]
  dsimp only
  cases refused : (engine.rack.prepareEach format EffectKind.all).1 with
  | none => simp [Except.map]
  | some reason =>
    obtain ⟨kind, fault⟩ := reason
    obtain ⟨-, -, -, -, rfl⟩ := Rack.prepareEach_error refused
    simp [Except.map]

/-- Starting anew prepares the effects up to one that refuses; what is remembered of the others
stays true, because they are left as they are. -/
theorem tells_target (tells : past.Tells engine) (wellFormed : call.WellFormed) {format : Format}
    (target : call.target? engine.format = some (.ok format)) :
    (past.after engine call).Tells (engine.perform call).state := by
  have stored := tells.stored.perform wellFormed
  have after := congrArg Outcome.state (perform_of_target target)
  rw [replying, restart_state] at after
  obtain ⟨same, fresh, untouched⟩ :=
    Rack.prepareEach_spec engine.rack format EffectKind.all (by decide)
  have clean := cleanliness_of_target past.clean target
  have prepared (kind) : engine.prepares call kind = true ↔
      engine.rack.isEnabled kind = true ∧
        kind ∈ Rack.preparedBy EffectKind.all
          (engine.rack.prepareEach format EffectKind.all).1 := by
    rw [prepares_of_target target, Bool.and_eq_true, decide_eq_true_iff]
  have remembered (kind) (enabled : engine.rack.isEnabled kind = true)
      (member : kind ∈ Rack.preparedBy EffectKind.all
        (engine.rack.prepareEach format EffectKind.all).1) :
      (past.after engine call).lastPrepared kind = some format := by
    simp only [Past.after]
    rw [if_pos ((prepared kind).mpr ⟨enabled, member⟩), after]
  refine ⟨stored, ?_, ?_, ?_⟩
  · intro kind enabled
    rw [after] at enabled ⊢
    dsimp only at enabled ⊢
    rw [same kind] at enabled
    by_cases member : kind ∈ Rack.preparedBy EffectKind.all
        (engine.rack.prepareEach format EffectKind.all).1
    · exact ⟨format, remembered kind enabled member, fresh kind member enabled⟩
    · obtain ⟨made, last, known⟩ := tells.made kind enabled
      refine ⟨made, ?_, untouched kind member made known⟩
      simp only [Past.after]
      rw [if_neg fun prepares => member ((prepared kind).mp prepares).2, last]
  · intro stillClean kind enabled
    rw [after] at enabled ⊢
    dsimp only at enabled ⊢
    rw [same kind] at enabled
    refine remembered kind enabled ?_
    rw [clean.mp stillClean]
    exact EffectKind.mem_all kind
  · intro unclean
    rw [after]
    dsimp only
    cases refused : (engine.rack.prepareEach format EffectKind.all).1 with
    | none =>
      have stillClean : (past.after engine call).clean = true := clean.mpr refused
      rw [stillClean] at unclean
      cases unclean
    | some reason =>
      obtain ⟨kind, fault⟩ := reason
      exact (Rack.prepareEach_error refused).2.2.2.1

/-- What is remembered stays true when a call prepares nothing, keeps the format, switches nothing
on and leaves every effect made for what it was made for. -/
theorem tells_of_kept (tells : past.Tells engine) (wellFormed : call.WellFormed)
    (untargeted : call.target? engine.format = none)
    (nothing : ∀ kind, engine.prepares call kind = false)
    (format : (engine.perform call).state.format = engine.format)
    (enabled : ∀ kind, (engine.perform call).state.rack.isEnabled kind = true →
      engine.rack.isEnabled kind = true)
    (madeFor : ∀ made kind, engine.rack.MadeFor made kind →
      (engine.perform call).state.rack.MadeFor made kind) :
    (past.after engine call).Tells (engine.perform call).state := by
  have clean : cleanliness past.clean engine call = past.clean := by
    simp only [cleanliness]
    rw [untargeted]
  have last (kind) : (past.after engine call).lastPrepared kind = past.lastPrepared kind := by
    simp only [Past.after]
    rw [nothing kind]
    rfl
  refine ⟨tells.stored.perform wellFormed, ?_, ?_, ?_⟩
  · intro kind stillEnabled
    obtain ⟨made, known, holds⟩ := tells.made kind (enabled kind stillEnabled)
    exact ⟨made, (last kind).trans known, madeFor made kind holds⟩
  · intro stillClean kind stillEnabled
    rw [last kind, format]
    exact tells.current (clean ▸ stillClean) kind (enabled kind stillEnabled)
  · intro unclean
    rw [format]
    exact tells.split (clean ▸ unclean)

/-- Switching prepares an effect when it goes on by that: it was off, and it was not refused. -/
theorem prepares_enable_iff (engine : Engine) (kind other : EffectKind) (enabled : Bool) :
    engine.prepares (.enable kind enabled) other = true ↔
      enabled = true ∧ kind = other ∧ engine.rack.isEnabled other = false ∧
        (enable kind enabled engine).result.isOk = true := by
  cases enabled with
  | false => simp [prepares, Call.target?]
  | true =>
    simp only [prepares, Call.target?, isOk_enable]
    simp [and_assoc]

/-- How switching an effect can end, and what it prepares in each case: it is refused, changes
nothing and prepares nothing, or it was off, goes on and is the one effect that is prepared, or it
is only switched and none is prepared. -/
theorem enable_prepares_cases (engine : Engine) (kind : EffectKind) (enabled : Bool) :
    ((enable kind enabled engine).state = engine ∧
      ∀ other, engine.prepares (.enable kind enabled) other = false) ∨
    (∃ rack, enabled = true ∧ engine.rack.isEnabled kind = false ∧
      (engine.rack.switch true kind).prepare engine.format kind = .ok rack ∧
      (enable kind enabled engine).state = { engine with rack } ∧
      ∀ other, engine.prepares (.enable kind true) other = decide (kind = other)) ∨
    ((enabled = true → engine.rack.isEnabled kind = true) ∧
      (enable kind enabled engine).state =
        { engine with rack := engine.rack.switch enabled kind } ∧
      ∀ other, engine.prepares (.enable kind enabled) other = false) := by
  rcases enable_cases kind enabled engine with ⟨fault, result, state⟩ |
    ⟨rack, rfl, -, wasOff, done, result, state⟩ | ⟨wasOn, result, state⟩
  · refine .inl ⟨state, fun other => ?_⟩
    rw [← Bool.not_eq_true, prepares_enable_iff, result]
    rintro ⟨-, -, -, answered⟩
    cases answered
  · refine .inr (.inl ⟨rack, rfl, wasOff, done, state, fun other => ?_⟩)
    rw [Bool.eq_iff_iff, prepares_enable_iff, result, decide_eq_true_iff]
    constructor
    · exact fun prepares => prepares.2.1
    · rintro rfl
      exact ⟨rfl, rfl, wasOff, rfl⟩
  · refine .inr (.inr ⟨fun on => (wasOn on).2, state, fun other => ?_⟩)
    rw [← Bool.not_eq_true, prepares_enable_iff]
    rintro ⟨on, rfl, off, -⟩
    rw [(wasOn on).2] at off
    cases off

/-- An effect that goes on is prepared for the format at hand, and what is remembered of the others
stays true. -/
theorem tells_goes_on (tells : past.Tells engine) {kind : EffectKind} {rack : Rack}
    (done : (engine.rack.switch true kind).prepare engine.format kind = .ok rack)
    (state : (enable kind true engine).state = { engine with rack })
    (prepares : ∀ other, engine.prepares (.enable kind true) other = decide (kind = other)) :
    (past.after engine (.enable kind true)).Tells (engine.perform (.enable kind true)).state := by
  have performed : (engine.perform (.enable kind true)).state = { engine with rack } := state
  obtain ⟨same, fresh, untouched⟩ := Rack.prepare_spec done
  have remembered (other) : (past.after engine (.enable kind true)).lastPrepared other =
      if kind = other then some engine.format else past.lastPrepared other := by
    simp only [Past.after, prepares other, decide_eq_true_iff]
    rw [performed]
  have wasOn {other} (isOther : kind ≠ other) (enabled : rack.isEnabled other = true) :
      engine.rack.isEnabled other = true := by
    rwa [same other, Rack.isEnabled_switch_of_ne engine.rack true (Ne.symm isOther)] at enabled
  have stored : (engine.perform (.enable kind true)).state.Stored := tells.stored.perform trivial
  rw [performed] at stored ⊢
  refine ⟨stored, ?_, ?_, tells.split⟩
  · intro other enabled
    rw [remembered other]
    by_cases isKind : kind = other
    · subst isKind
      rw [if_pos rfl]
      exact ⟨engine.format, rfl, fresh (Rack.isEnabled_switch engine.rack true kind)⟩
    · obtain ⟨made, last, known⟩ := tells.made other (wasOn isKind enabled)
      rw [if_neg isKind]
      exact ⟨made, last, untouched other (Ne.symm isKind) made
        (Rack.madeFor_switch engine.rack true kind other made known)⟩
  · intro clean other enabled
    rw [remembered other]
    by_cases isKind : kind = other
    · rw [if_pos isKind]
    · rw [if_neg isKind]
      exact tells.current clean other (wasOn isKind enabled)

/-- Switching keeps what is remembered true. It prepares nothing unless an effect goes on. -/
theorem tells_enable (tells : past.Tells engine) (kind : EffectKind) (enabled : Bool) :
    (past.after engine (.enable kind enabled)).Tells
      (engine.perform (.enable kind enabled)).state := by
  have performed : (engine.perform (.enable kind enabled)).state =
      (enable kind enabled engine).state := rfl
  rcases engine.enable_prepares_cases kind enabled with ⟨state, nothing⟩ |
    ⟨rack, rfl, -, done, state, prepares⟩ | ⟨wasOn, state, nothing⟩
  · refine tells_of_kept tells trivial rfl nothing ?_ ?_ ?_
    · rw [performed, state]
    · rw [performed, state]
      exact fun _ stillEnabled => stillEnabled
    · rw [performed, state]
      exact fun _ _ known => known
  · exact tells_goes_on tells done state prepares
  · refine tells_of_kept tells trivial rfl nothing ?_ ?_ ?_
    · rw [performed, state]
    · rw [performed, state]
      intro other stillEnabled
      dsimp only at stillEnabled
      by_cases isKind : other = kind
      · subst isKind
        rw [Rack.isEnabled_switch] at stillEnabled
        exact wasOn stillEnabled
      · rwa [Rack.isEnabled_switch_of_ne engine.rack enabled isKind] at stillEnabled
    · rw [performed, state]
      exact fun made other => Rack.madeFor_switch engine.rack enabled kind other made

/-- Every well-formed call keeps what is remembered true. -/
theorem tells_perform (past : Past) (engine : Engine) (call : Call) (wellFormed : call.WellFormed)
    (tells : past.Tells engine) : (past.after engine call).Tells (engine.perform call).state := by
  cases target : call.target? engine.format with
  | some change =>
    cases change with
    | ok format => exact tells_target tells wellFormed target
    | error cause =>
      obtain ⟨result, state⟩ := perform_of_target_error target
      have same : past.after engine call = past := by
        simp only [Past.after, cleanliness, prepares]
        simp [target, result]
      rw [same, state]
      exact tells
  | none =>
    have outcome := perform_of_no_target target
    cases call with
    | enable kind enabled => exact tells_enable tells kind enabled
    | restart => cases target
    | setRate hz => cases target
    | setChannels input output => cases target
    | setReverseChannels channels => cases target
    | _ =>
      rcases outcome with ⟨_, _, impossible⟩ | ⟨format, alike⟩
      · cases impossible
      · refine tells_of_kept tells wellFormed target (fun _ => rfl) format ?_ alike.madeFor
        intro kind enabled
        exact (alike.enabled kind).symm.trans enabled

/-- The past of a run of well-formed calls tells of the engine at its end. -/
theorem tells_of_run {blueprint : Blueprint} {created : Engine} {calls : List Call}
    (made : (create blueprint).1 = .ok created) (wellFormed : ∀ call ∈ calls, call.WellFormed) :
    (created.remember Past.after {} calls).Tells (created.run calls).2 := by
  obtain ⟨format, supported, rfl⟩ := create_eq_ok made
  refine remember_induction Past.after Past.Tells tells_perform {} (blank blueprint.id format) calls
    wellFormed ?_
  refine ⟨stored_blank blueprint.id supported, ?_, ?_, ?_⟩
  · intro kind enabled
    cases kind <;> cases enabled
  · intro _ kind enabled
    cases kind <;> cases enabled
  · intro unclean
    cases unclean

end Engine

namespace Past

variable {past : Past} {engine : Engine}

/-- What is remembered of a prepared effect decides for every property of its state that is known
of all states made for one format. -/
theorem Tells.forall_iff (tells : past.Tells engine) {Current : EffectKind → Prop}
    {Follows : Format → EffectKind → Prop}
    (known : ∀ made kind, engine.rack.MadeFor made kind → (Current kind ↔ Follows made kind)) :
    (∀ kind, engine.rack.isEnabled kind = true → Current kind) ↔
      ∀ kind, engine.rack.isEnabled kind = true →
        ∃ made, past.lastPrepared kind = some made ∧ Follows made kind := by
  constructor
  · intro current kind enabled
    obtain ⟨made, last, holds⟩ := tells.made kind enabled
    exact ⟨made, last, (known made kind holds).mp (current kind enabled)⟩
  · intro follows kind enabled
    obtain ⟨made, last, holds⟩ := tells.made kind enabled
    obtain ⟨other, also, admits⟩ := follows kind enabled
    have same : made = other := Option.some.inj (last.symm.trans also)
    subst same
    exact (known made kind holds).mpr admits

/-- The effects that are on have the state for the format at hand exactly when what they were
prepared for suits it. -/
theorem Tells.preparedFor_iff (tells : past.Tells engine) :
    engine.rack.PreparedFor engine.format ↔
      ∀ kind, engine.rack.isEnabled kind = true →
        ∃ made, past.lastPrepared kind = some made ∧ kind.Suits made engine.format :=
  tells.forall_iff fun _ _ known => Rack.madeFor_iff known tells.stored.supported.1

/-- A captured frame is taken exactly when it matches, can be recorded, comes with the parameters
that it needs, and every effect that is on was prepared for a format that admits the one at
hand. -/
theorem Tells.capture_ok_iff (tells : past.Tells engine) (frame : Frame) :
    (engine.capture frame).1.result = .ok () ↔
      frame.Matches engine.format engine.format.inputChannels ∧
        engine.Records .captured frame ∧ engine.ParametersGiven ∧
        ∀ kind, engine.rack.isEnabled kind = true →
          ∃ made, past.lastPrepared kind = some made ∧ kind.Admits made engine.format := by
  rw [tells.stored.capture_ok_iff, Engine.frameFault_eq_none_iff, Rack.refusals_eq_none_iff,
    Engine.parametersGiven_iff, tells.forall_iff fun _ _ known => Rack.admits_iff known]
  rfl

end Past

namespace Engine

/-- What a run of well-formed calls remembers tells which captured frames its engine takes and
whether the effects then work on the state for the format at hand.

A frame is taken when every effect that is on was prepared for a format that admits the one at
hand. The state is the right one when that format also suits the one at hand. In a clean run every
effect that is on was prepared for the format at hand itself, which does both. A run that is not
clean was left at a rate that is split, and there an effect can admit frames that it does not
suit. -/
theorem capture_of_past {blueprint : Blueprint} {created : Engine} {calls : List Call}
    (made : (create blueprint).1 = .ok created) (wellFormed : ∀ call ∈ calls, call.WellFormed) :
    let engine := (created.run calls).2
    let past := created.remember Past.after {} calls
    (∀ frame, (engine.capture frame).1.result = .ok () ↔
      frame.Matches engine.format engine.format.inputChannels ∧
        engine.Records .captured frame ∧ engine.ParametersGiven ∧
        ∀ kind, engine.rack.isEnabled kind = true →
          ∃ made, past.lastPrepared kind = some made ∧ kind.Admits made engine.format) ∧
      (engine.rack.PreparedFor engine.format ↔
        ∀ kind, engine.rack.isEnabled kind = true →
          ∃ made, past.lastPrepared kind = some made ∧ kind.Suits made engine.format) ∧
      (past.clean = true → ∀ kind, engine.rack.isEnabled kind = true →
        past.lastPrepared kind = some engine.format) ∧
      (past.clean = false → engine.format.rate.isSplit = true) := by
  have tells := tells_of_run made wellFormed
  exact ⟨tells.capture_ok_iff, tells.preparedFor_iff, tells.current, tells.split⟩

/-- A run at the lowest rate that turns the high-pass filter and mobile echo control on, fails to
change to the highest rate because of the latter, and turns it off again. -/
def outlived : List Call :=
  [.enable .highPass true, .enable .mobileEchoControl true, .setRate 32000,
    .enable .mobileEchoControl false]

/-- The engine of that run takes a frame at the highest rate with a filter for the lowest. -/
theorem capture_of_past_outlived :
    let engine := ((blank 0 { rate := .narrow }).run outlived).2
    (create { rate := 8000 }).1 = .ok (blank 0 { rate := .narrow }) ∧
      (∀ call ∈ outlived, call.WellFormed) ∧
      (engine.capture (Frame.silent 32000 1 320)).1.result = .ok () ∧
      engine.rack.isEnabled .highPass = true ∧ engine.format.rate = .superWide ∧
      ((blank 0 { rate := .narrow }).remember Past.after {} outlived).lastPrepared .highPass =
        some { rate := .narrow } ∧
      ¬ engine.rack.PreparedFor engine.format := by
  have made : (create { rate := 8000 }).1 = .ok (blank 0 { rate := .narrow }) := rfl
  have wellFormed : ∀ call ∈ outlived, call.WellFormed := by decide
  have last :
      ((blank 0 { rate := .narrow }).remember Past.after {} outlived).lastPrepared .highPass =
        some { rate := .narrow } := rfl
  obtain ⟨takes, prepared, -, -⟩ := capture_of_past made wellFormed
  refine ⟨made, wellFormed, ?_, rfl, rfl, last, ?_⟩
  · rw [takes]
    refine ⟨⟨rfl, rfl, rfl⟩, ?_, ?_, ?_⟩
    · intro sink given
      cases given
    · refine ⟨?_, ?_, ?_⟩
      · rintro (enabled | enabled)
        · cases enabled
        · cases enabled
      · intro enabled
        cases enabled
      · intro enabled
        cases enabled
    · intro kind enabled
      cases kind with
      | highPass => exact ⟨{ rate := .narrow }, last, by decide⟩
      | _ => cases enabled
  · rw [prepared]
    intro suits
    obtain ⟨format, also, suited⟩ := suits .highPass rfl
    have same : ({ rate := .narrow } : Format) = format := Option.some.inj (last.symm.trans also)
    subst same
    revert suited
    decide

/-- A run at the middle rate that turns mobile echo control on, fails to change to the highest rate
and reports a delay. -/
def unnoticed : List Call :=
  [.enable .mobileEchoControl true, .setRate 32000, .reportDelay 0]

/-- The engine of that run takes a frame at the highest rate, which mobile echo control refuses to
be prepared for, while mobile echo control is on. Its bands are as long as those it was made
for. -/
theorem not_preparedFor_unnoticed :
    let engine := ((blank 0 {}).run unnoticed).2
    engine.Reachable ∧ (Frame.silent 32000 1 320).WellFormed ∧
      (engine.capture (Frame.silent 32000 1 320)).1.result = .ok () ∧
      engine.rack.isEnabled .mobileEchoControl = true ∧ engine.format.rate = .superWide ∧
      ((blank 0 {}).remember Past.after {} unnoticed).lastPrepared .mobileEchoControl =
        some { rate := .wide } ∧
      ¬ engine.rack.PreparedFor engine.format := by
  have made : (create {}).1 = .ok (blank 0 {}) := rfl
  have wellFormed : ∀ call ∈ unnoticed, call.WellFormed := by decide
  have last : ((blank 0 {}).remember Past.after {} unnoticed).lastPrepared .mobileEchoControl =
      some { rate := .wide } := rfl
  have tells := tells_of_run made wellFormed
  refine ⟨⟨{}, unnoticed, blank 0 {}, made, wellFormed, rfl⟩, Frame.wellFormed_silent 32000 1 320,
    ?_, rfl, rfl, last, ?_⟩
  · rw [tells.capture_ok_iff]
    refine ⟨⟨rfl, rfl, rfl⟩, ?_, ?_, ?_⟩
    · intro sink given
      cases given
    · refine ⟨fun _ => rfl, ?_, ?_⟩
      · intro enabled
        cases enabled
      · intro enabled
        cases enabled
    · intro kind enabled
      cases kind with
      | mobileEchoControl => exact ⟨{ rate := .wide }, last, by decide⟩
      | _ => cases enabled
  · intro prepared
    have split := (prepared .mobileEchoControl rfl).1
    cases split

end Engine

end VoiceEngine
