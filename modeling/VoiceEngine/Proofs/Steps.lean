import VoiceEngine.Proofs.History
import VoiceEngine.Proofs.Refusals
import VoiceEngine.Proofs.Setters

/-!
# What one call does to the effects

A call starts the engine anew, switches one effect, or leaves the rack of effects alike. Starting
anew prepares the effects in their order, up to one that refuses; `Rack.preparedBy` lists those
that come before it. The only effect that ever refuses is mobile echo control, and only a format
that is split.

Every invariant of an engine is shown call by call, and most calls are of the first two kinds. What
these do is therefore said here once: the state and the result of starting anew, the three ways in
which switching can end, and for a setting that the rack stays switched and made as it was. Frames
have a module of their own. Nothing here speaks of what the effects hold, only of whether they are
on and which format they were made for.
-/

namespace VoiceEngine

namespace Rack

variable {rack next : Rack} {format : Format} {kind : EffectKind}

/-- Preparing mobile echo control as part of a rack is preparing it on its own. It is the only
effect for which this has to be said, since preparing any other cannot fail and unfolds to a record.
-/
theorem prepare_mobileEchoControl (rack : Rack) (format : Format) :
    rack.prepare format .mobileEchoControl =
      (rack.mobileEchoControl.prepare format).map fun mobileEchoControl =>
        { rack with mobileEchoControl } := by
  simp only [prepare]
  cases rack.mobileEchoControl.prepare format with
  | error fault => rfl
  | ok effect => rfl

/-- Preparing an effect does not switch any, makes it for the format if it is on, and leaves the
others made for what they were made for. The cases are the effects, and in each the others are
fields that preparing this one does not write. Gain control, the level meter and the voice detector
are made for no format, so for these there is nothing to keep. -/
theorem prepare_spec (done : rack.prepare format kind = .ok next) :
    (∀ other, next.isEnabled other = rack.isEnabled other) ∧
      (rack.isEnabled kind = true → next.MadeFor format kind) ∧
      ∀ other, other ≠ kind → ∀ made, rack.MadeFor made other → next.MadeFor made other := by
  cases kind with
  | echoCanceller =>
    cases done
    refine ⟨?_, EchoCanceller.madeFor_prepare rack.echoCanceller format, ?_⟩
    · intro other
      cases other <;> first
        | rfl
        | exact EchoCanceller.enabled_prepare rack.echoCanceller format
    · intro other different made
      cases other <;> first | exact id | exact absurd rfl different
  | mobileEchoControl =>
    rw [prepare_mobileEchoControl] at done
    obtain ⟨effect, prepared, rfl⟩ := exists_of_map_eq_ok done
    obtain ⟨switched, fresh⟩ := MobileEchoControl.prepare_spec prepared
    refine ⟨?_, fresh, ?_⟩
    · intro other
      cases other <;> first | rfl | exact switched
    · intro other different made
      cases other <;> first | exact id | exact absurd rfl different
  | highPass =>
    cases done
    refine ⟨?_, HighPass.madeFor_prepare rack.highPass format, ?_⟩
    · intro other
      cases other <;> first | rfl | exact HighPass.enabled_prepare rack.highPass format
    · intro other different made
      cases other <;> first | exact id | exact absurd rfl different
  | noiseSuppressor =>
    cases done
    refine ⟨?_, NoiseSuppressor.madeFor_prepare rack.noiseSuppressor format, ?_⟩
    · intro other
      cases other <;> first
        | rfl
        | exact NoiseSuppressor.enabled_prepare rack.noiseSuppressor format
    · intro other different made
      cases other <;> first | exact id | exact absurd rfl different
  | gainControl =>
    cases done
    refine ⟨?_, fun _ => trivial, ?_⟩
    · intro other
      cases other <;> first | rfl | exact GainControl.enabled_prepare rack.gainControl
    · intro other different made
      cases other <;> exact id
  | levelMeter =>
    cases done
    refine ⟨?_, fun _ => trivial, ?_⟩
    · intro other
      cases other <;> first | rfl | exact LevelMeter.enabled_prepare rack.levelMeter
    · intro other different made
      cases other <;> exact id
  | voiceDetector =>
    cases done
    refine ⟨?_, fun _ => trivial, ?_⟩
    · intro other
      cases other <;> first | rfl | exact VoiceDetector.enabled_prepare rack.voiceDetector
    · intro other different made
      cases other <;> exact id

/-- Only mobile echo control refuses to be prepared, when it is on and the format is split. The
reason is always the rate. -/
theorem prepare_error {fault : Fault} (failed : rack.prepare format kind = .error fault) :
    kind = .mobileEchoControl ∧ rack.mobileEchoControl.enabled = true ∧
      format.rate.isSplit = true ∧ fault = .badSampleRate := by
  cases kind with
  | mobileEchoControl =>
    simp only [prepare] at failed
    cases prepared : rack.mobileEchoControl.prepare format with
    | ok effect => simp [prepared] at failed
    | error cause =>
      simp only [prepared, Except.error.injEq] at failed
      subst failed
      exact ⟨rfl, MobileEchoControl.prepare_error prepared⟩
  | _ => cases failed

/-- The effects of a list that come before the one that refused; all of them if none did. -/
def preparedBy (kinds : List EffectKind) : Option (EffectKind × Fault) → List EffectKind
  | none => kinds
  | some (refusing, _) => kinds.takeWhile (· ≠ refusing)

/-- An effect that refuses is mobile echo control, found on for a format that is split. It was on
from the start, because preparing the effects before it switches none, which the induction needs to
carry the condition back to the first rack. -/
theorem prepareEach_error {kinds : List EffectKind} {fault : Fault}
    (failed : (prepareEach format kinds rack).1 = some (kind, fault)) :
    kind ∈ kinds ∧ kind = .mobileEchoControl ∧ rack.mobileEchoControl.enabled = true ∧
      format.rate.isSplit = true ∧ fault = .badSampleRate := by
  induction kinds generalizing rack with
  | nil => cases failed
  | cons first others inductionHypothesis =>
    simp only [prepareEach] at failed
    cases done : rack.prepare format first with
    | ok prepared =>
      simp only [done] at failed
      obtain ⟨member, isMobile, enabled, rest⟩ := inductionHypothesis failed
      have same := (prepare_spec done).1 .mobileEchoControl
      dsimp only [isEnabled] at same
      exact ⟨List.mem_cons_of_mem first member, isMobile, same ▸ enabled, rest⟩
    | error cause =>
      simp only [done, Option.some.injEq, Prod.mk.injEq] at failed
      obtain ⟨rfl, rfl⟩ := failed
      exact ⟨List.mem_cons_self, prepare_error done⟩

/-- Preparing effects in a row does not switch any. Those before one that refuses are made for the
format if they are on, and the others stay made for what they were made for.

Proof: the induction is on the list. Its effects are distinct, so what the first one has been made
for is left alone when the others are prepared, and the one that refuses is not the first. -/
theorem prepareEach_spec (rack : Rack) (format : Format) (kinds : List EffectKind)
    (distinct : kinds.Nodup) :
    (∀ kind, (prepareEach format kinds rack).2.isEnabled kind = rack.isEnabled kind) ∧
      (∀ kind ∈ preparedBy kinds (prepareEach format kinds rack).1, rack.isEnabled kind = true →
        (prepareEach format kinds rack).2.MadeFor format kind) ∧
      ∀ kind, kind ∉ preparedBy kinds (prepareEach format kinds rack).1 → ∀ made,
        rack.MadeFor made kind → (prepareEach format kinds rack).2.MadeFor made kind := by
  induction kinds generalizing rack with
  | nil => exact ⟨fun _ => rfl, fun _ member => absurd member List.not_mem_nil, fun _ _ _ => id⟩
  | cons first others inductionHypothesis =>
    obtain ⟨new, rest⟩ := List.nodup_cons.mp distinct
    simp only [prepareEach]
    cases done : rack.prepare format first with
    | error cause =>
      have none_before : preparedBy (first :: others) (some (first, cause)) = [] := by
        simp [preparedBy]
      refine ⟨fun _ => rfl, ?_, fun _ _ _ => id⟩
      intro kind member
      rw [none_before] at member
      cases member
    | ok prepared =>
      obtain ⟨switched, fresh, untouched⟩ := prepare_spec done
      obtain ⟨laterSwitched, laterFresh, laterUntouched⟩ := inductionHypothesis prepared rest
      have before : preparedBy (first :: others) (prepareEach format others prepared).1 =
          first :: preparedBy others (prepareEach format others prepared).1 := by
        cases refusal : (prepareEach format others prepared).1 with
        | none => rfl
        | some reason =>
          obtain ⟨refusing, fault⟩ := reason
          have member := (prepareEach_error refusal).1
          have different : first ≠ refusing := by
            rintro rfl
            exact new member
          simp [preparedBy, different]
      dsimp only
      rw [before]
      refine ⟨fun kind => (laterSwitched kind).trans (switched kind), ?_, ?_⟩
      · intro kind member enabled
        have stillEnabled : prepared.isEnabled kind = true := (switched kind).trans enabled
        by_cases later : kind ∈ preparedBy others (prepareEach format others prepared).1
        · exact laterFresh kind later stillEnabled
        · have isFirst : kind = first := by
            rcases List.mem_cons.mp member with here | there
            · exact here
            · exact absurd there later
          subst isFirst
          exact laterUntouched kind later format (fresh enabled)
      · intro kind outside made known
        rw [List.mem_cons, not_or] at outside
        exact laterUntouched kind outside.2 made (untouched kind outside.1 made known)

/-- Switching an effect leaves all of them made for what they were made for, whether it goes on or
off: the flag is none of the things that are made for a format. -/
theorem madeFor_switch (rack : Rack) (enabled : Bool) (kind other : EffectKind) (made : Format)
    (known : rack.MadeFor made other) : (rack.switch enabled kind).MadeFor made other := by
  cases kind <;> cases other <;> exact known

/-- A value that an effect takes leaves the rack switched and made as it was. No setter touches what
an effect was made for: histories, filters and the number of channels are none of the settings. -/
theorem adjust_alike {setting : Setting} (taken : rack.adjust setting = .ok next) :
    rack.Alike next := by
  cases adjusted taken with
  | echoCanceller setter its =>
    have tuned := Setting.tuned_echoCanceller its rack.echoCanceller
    refine rack.alike_echoCanceller tuned.enabled ?_
    intro format made
    rwa [EchoCanceller.MadeFor, tuned.farEnd, tuned.channels]
  | mobileEchoControl setter its =>
    have tuned := Setting.tuned_mobileEchoControl its rack.mobileEchoControl
    refine rack.alike_mobileEchoControl tuned.enabled ?_
    intro format made
    rwa [MobileEchoControl.MadeFor, tuned.farEnd, tuned.channels]
  | gainControl setter its =>
    exact rack.alike_gainControl (Setting.tuned_gainControl its rack.gainControl).enabled
  | noiseSuppressor setter its =>
    obtain ⟨enabled, channels⟩ := Setting.tuned_noiseSuppressor its rack.noiseSuppressor
    refine rack.alike_noiseSuppressor enabled ?_
    intro format made
    rwa [NoiseSuppressor.MadeFor, channels]
  | voiceDetector setter its =>
    exact rack.alike_voiceDetector (Setting.tuned_voiceDetector its rack.voiceDetector)

end Rack

namespace Call

/-- The format that a call starts the engine anew with, or why that format is refused. Nothing for a
call that does not start the engine anew. Calls that change the format and the one that only starts
anew are treated as one kind from here on. -/
def target? (format : Format) : Call → Option (Except FormatError Format)
  | .restart => some (.ok format)
  | .setRate hz => some (format.withRate hz)
  | .setChannels input output => some (format.withChannels input output)
  | .setReverseChannels channels => some (format.withReverseChannels channels)
  | _ => none

end Call

namespace Engine

variable {engine : Engine} {call : Call}

/-- Starting an engine gives it new storage, forgets the reported delay and prepares its effects in
their order. The state is the same expression whether an effect refuses or not: the storage is new
in both cases, and effects before the one that refuses stay prepared. -/
theorem restart_state (engine : Engine) :
    (restart engine).state =
      { engine with
        capturing := .ofFormat engine.format
        rendering := .ofFormat engine.format
        delay := engine.delay.forget
        rack := (engine.rack.prepareEach engine.format EffectKind.all).2 } := by
  simp only [restart]
  split
  case h_1 prepared => simp only [prepared]
  case h_2 refused => simp only [refused]

/-- Starting an engine ends as preparing its effects does. Nothing else that starting does can fail.
-/
theorem restart_result (engine : Engine) :
    (restart engine).result =
      match (engine.rack.prepareEach engine.format EffectKind.all).1 with
      | none => .ok ()
      | some (_, fault) => .error fault := by
  simp only [restart]
  split
  case h_1 prepared => simp only [prepared]
  case h_2 refused => simp only [refused]

/-- A call with an accepted target starts the engine with that format. What is known about starting
therefore holds of all four calls at once. -/
theorem perform_of_target {format : Format}
    (target : call.target? engine.format = some (.ok format)) :
    engine.perform call = replying (fun _ => .done) (restart { engine with format }) := by
  cases call with
  | restart =>
    simp only [Call.target?, Option.some.injEq, Except.ok.injEq] at target
    subst target
    rfl
  | setRate hz =>
    simp only [Call.target?, Option.some.injEq] at target
    simp only [perform, setRate, reconfigure, target]
  | setChannels input output =>
    simp only [Call.target?, Option.some.injEq] at target
    simp only [perform, setChannels, reconfigure, target]
  | setReverseChannels channels =>
    simp only [Call.target?, Option.some.injEq] at target
    simp only [perform, setReverseChannels, reconfigure, target]
  | _ => cases target

/-- A call with a refused target changes nothing: the format is checked before the engine is
touched. -/
theorem perform_of_target_error {cause : FormatError}
    (target : call.target? engine.format = some (.error cause)) :
    (engine.perform call).result = .error .badParameter ∧ (engine.perform call).state = engine := by
  cases call with
  | restart => cases target
  | setRate hz =>
    simp only [Call.target?, Option.some.injEq] at target
    simp [perform, replying, setRate, reconfigure, target, Except.map]
  | setChannels input output =>
    simp only [Call.target?, Option.some.injEq] at target
    simp [perform, replying, setChannels, reconfigure, target, Except.map]
  | setReverseChannels channels =>
    simp only [Call.target?, Option.some.injEq] at target
    simp [perform, replying, setReverseChannels, reconfigure, target, Except.map]
  | _ => cases target

/-- A target of a supported format is supported. Each of the three changes checks the part that it
changes and keeps the others. -/
theorem supported_target {format next : Format} (supported : format.Supported)
    (target : call.target? format = some (.ok next)) : next.Supported := by
  cases call with
  | restart =>
    cases target
    exact supported
  | setRate hz =>
    exact Format.supported_withRate supported (Option.some.inj target)
  | setChannels input output =>
    exact Format.supported_withChannels supported (Option.some.inj target)
  | setReverseChannels channels =>
    exact Format.supported_withReverseChannels supported (Option.some.inj target)
  | _ => cases target

/-- An answer is an answer whatever it is turned into, so a call succeeds exactly when what it
performs does. -/
theorem isOk_replying {Answer : Type} (reply : Answer → Reply) (outcome : Outcome Engine Answer) :
    (replying reply outcome).result.isOk = outcome.result.isOk := by
  simp only [replying]
  cases outcome.result <;> rfl

/-- A call that switches an effect succeeds exactly when switching it does. -/
theorem isOk_enable (engine : Engine) (kind : EffectKind) (enabled : Bool) :
    (engine.perform (.enable kind enabled)).result.isOk =
      (enable kind enabled engine).result.isOk :=
  isOk_replying _ _

/-- How switching an effect can end: it is refused and nothing changes, or it was off, goes on and
is prepared, or it is only switched. An effect that refuses to be prepared is switched back, so that
case is one of those in which nothing changes. In the last case an effect that is to be on was on
before. -/
theorem enable_cases (kind : EffectKind) (enabled : Bool) (engine : Engine) :
    (∃ fault, (enable kind enabled engine).result = .error fault ∧
      (enable kind enabled engine).state = engine) ∨
    (∃ rack, enabled = true ∧ excludes engine.rack kind = false ∧
      engine.rack.isEnabled kind = false ∧
      (engine.rack.switch true kind).prepare engine.format kind = .ok rack ∧
      (enable kind enabled engine).result = .ok () ∧
      (enable kind enabled engine).state = { engine with rack }) ∨
    ((enabled = true → excludes engine.rack kind = false ∧ engine.rack.isEnabled kind = true) ∧
      (enable kind enabled engine).result = .ok () ∧
      (enable kind enabled engine).state =
        { engine with rack := engine.rack.switch enabled kind }) := by
  simp only [enable]
  split
  case isTrue => exact .inl ⟨.badParameter, rfl, rfl⟩
  case isFalse free =>
    split
    case isTrue wasOff =>
      obtain ⟨rfl, off⟩ := wasOff
      cases prepared : (engine.rack.switch true kind).prepare engine.format kind with
      | error fault =>
        refine .inl ⟨fault, rfl, ?_⟩
        dsimp only
        rw [Rack.switch_back (by simpa using off)]
      | ok rack =>
        refine .inr (.inl ⟨rack, rfl, ?_, by simpa using off, rfl, rfl, rfl⟩)
        simpa using free
    case isFalse wasOn =>
      refine .inr (.inr ⟨?_, rfl, rfl⟩)
      rintro rfl
      exact ⟨by simpa using free, by simpa using wasOn⟩

end Engine

end VoiceEngine
