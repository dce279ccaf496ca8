import VoiceEngine.Proofs.EffectBounds
import VoiceEngine.Proofs.Stored

/-!
# Bounds that every reachable engine keeps

Beside the shape of its storage, an engine keeps the reported delay and the numbers of its effects
within bounds. The two echo effects are never on together, and an echo canceller that is on always
has the sizes of the format at hand. This holds even after a start that failed: the echo canceller
is prepared before the only effect that can refuse.

Of the other effects no sizes are kept. After a start that failed they may have been made for an
earlier format while they are on; their passes find that out and refuse. The bounds are shown step
by step in the order in which a call works: preparing, switching, setting, the stages of both kinds
of frame, and from these the calls.
-/

namespace VoiceEngine

/-- What holds of the effects of a reachable engine whatever its format is and whatever failed
before: the two echo effects exclude each other, mobile echo control has no taps, and gain control
and the voice detector are within their bounds. -/
structure Rack.Steady (rack : Rack) : Prop where
  exclusive : ¬ (rack.echoCanceller.enabled = true ∧ rack.mobileEchoControl.enabled = true)
  untapped : rack.mobileEchoControl.farEnd.taps = 0
  gainControl : rack.gainControl.Bounded
  voiceDetector : rack.voiceDetector.Bounded

/-- An echo canceller that is on has the sizes of a format. Nothing is said while it is off, since
it is prepared when it goes on. -/
def Rack.CancellerSized (rack : Rack) (format : Format) : Prop :=
  rack.echoCanceller.enabled = true → rack.echoCanceller.SizedFor format

namespace Rack

variable {rack next : Rack} {format : Format} {kind : EffectKind}

/-- The effects of a new engine are steady: both echo effects are off, and the defaults lie within
the bounds. -/
theorem steady_new : Steady {} := by
  refine ⟨?_, rfl, ⟨by decide, by decide, by decide, by decide⟩,
    ⟨by decide, by decide, by decide⟩⟩
  rintro ⟨enabled, -⟩
  cases enabled

/-- Effects that are switched as before exclude each other as before. Most steps switch none, so
this settles the first field of `Steady` for them without looking at what they do. -/
theorem exclusive_of_same (steady : rack.Steady)
    (same : ∀ kind, next.isEnabled kind = rack.isEnabled kind) :
    ¬ (next.echoCanceller.enabled = true ∧ next.mobileEchoControl.enabled = true) := by
  have canceller := same .echoCanceller
  have mobile := same .mobileEchoControl
  dsimp only [isEnabled] at canceller mobile
  rw [canceller, mobile]
  exact steady.exclusive

/-- Preparing an effect keeps the effects steady. Mobile echo control is prepared with no taps for
any number of channels; gain control and the voice detector come back within their bounds. -/
theorem Steady.prepare (steady : rack.Steady) (done : rack.prepare format kind = .ok next) :
    next.Steady := by
  have exclusive := exclusive_of_same steady (prepare_spec done).1
  cases kind with
  | mobileEchoControl =>
    rw [prepare_mobileEchoControl] at done
    obtain ⟨effect, prepared, rfl⟩ := exists_of_map_eq_ok done
    refine ⟨exclusive, ?_, steady.gainControl, steady.voiceDetector⟩
    simp only [MobileEchoControl.prepare] at prepared
    split at prepared
    · cases prepared
      exact steady.untapped
    split at prepared
    · cases prepared
    · cases prepared
      exact Nat.zero_mul _
  | gainControl =>
    cases done
    exact ⟨exclusive, steady.untapped, steady.gainControl.prepare, steady.voiceDetector⟩
  | voiceDetector =>
    cases done
    exact ⟨exclusive, steady.untapped, steady.gainControl, steady.voiceDetector.prepare⟩
  | _ =>
    cases done
    exact ⟨exclusive, steady.untapped, steady.gainControl, steady.voiceDetector⟩

/-- Preparing effects in a row keeps them steady, also when one of them refuses: that one changes
nothing, and those behind it are not reached. -/
theorem Steady.prepareEach (steady : rack.Steady) (format : Format) (kinds : List EffectKind) :
    (prepareEach format kinds rack).2.Steady := by
  induction kinds generalizing rack with
  | nil => exact steady
  | cons kind kinds inductionHypothesis =>
    simp only [Rack.prepareEach]
    cases done : rack.prepare format kind with
    | error fault => exact steady
    | ok prepared => exact inductionHypothesis (steady.prepare done)

/-- Switching an effect off, or on while the other echo effect is off, keeps them steady. That the
other one is off is what the engine checks before it switches. -/
theorem Steady.switch (steady : rack.Steady) (kind : EffectKind) (enabled : Bool)
    (free : enabled = true → Engine.excludes rack kind = false) :
    (rack.switch enabled kind).Steady := by
  cases kind with
  | echoCanceller =>
    refine ⟨?_, steady.untapped, steady.gainControl, steady.voiceDetector⟩
    rintro ⟨on, mobile⟩
    have off : rack.mobileEchoControl.enabled = false := free on
    have isOn : rack.mobileEchoControl.enabled = true := mobile
    rw [off] at isOn
    cases isOn
  | mobileEchoControl =>
    refine ⟨?_, steady.untapped, steady.gainControl, steady.voiceDetector⟩
    rintro ⟨canceller, on⟩
    have off : rack.echoCanceller.enabled = false := free on
    have isOn : rack.echoCanceller.enabled = true := canceller
    rw [off] at isOn
    cases isOn
  | gainControl =>
    have bounded := steady.gainControl
    exact ⟨steady.exclusive, steady.untapped,
      ⟨bounded.range, bounded.recommended, bounded.target, bounded.compression⟩,
      steady.voiceDetector⟩
  | voiceDetector =>
    have bounded := steady.voiceDetector
    exact ⟨steady.exclusive, steady.untapped, steady.gainControl,
      ⟨bounded.windowMs, bounded.windowFrames, bounded.hangover⟩⟩
  | _ => exact ⟨steady.exclusive, steady.untapped, steady.gainControl, steady.voiceDetector⟩

/-- A value that an effect takes keeps the effects steady. None switches an echo effect, and what
gain control and the voice detector accept lies within their bounds. -/
theorem Steady.adjust (steady : rack.Steady) {setting : Setting}
    (taken : rack.adjust setting = .ok next) : next.Steady := by
  have exclusive := exclusive_of_same steady (adjust_alike taken).enabled
  cases adjusted taken with
  | echoCanceller setter its =>
    exact ⟨exclusive, steady.untapped, steady.gainControl, steady.voiceDetector⟩
  | mobileEchoControl setter its =>
    have tuned := Setting.tuned_mobileEchoControl its rack.mobileEchoControl
    have untapped : (setter.work rack.mobileEchoControl).farEnd.taps = 0 := by
      rw [tuned.farEnd]
      exact steady.untapped
    exact ⟨exclusive, untapped, steady.gainControl, steady.voiceDetector⟩
  | gainControl setter its accepted =>
    exact ⟨exclusive, steady.untapped, steady.gainControl.tuned its accepted, steady.voiceDetector⟩
  | noiseSuppressor setter its =>
    exact ⟨exclusive, steady.untapped, steady.gainControl, steady.voiceDetector⟩
  | voiceDetector setter its accepted =>
    exact ⟨exclusive, steady.untapped, steady.gainControl, steady.voiceDetector.tuned its accepted⟩

/-- A stage of a captured frame keeps the effects steady. No stage switches an effect, mobile echo
control keeps what it has heard, and the bounds of the other two are lemmas about these effects
alone. -/
theorem Steady.captureStage (steady : rack.Steady) (delay : StreamDelay) (audio : StreamBuffer)
    (stage : CaptureStage) : (stage.run delay rack audio).effect.Steady := by
  have exclusive :=
    exclusive_of_same steady (CaptureStage.run_alike delay rack audio stage).1.enabled
  cases stage with
  | snapshot =>
    simp only [CaptureStage.run]
    split <;> exact steady
  | mobileEchoControl =>
    refine ⟨exclusive, ?_, steady.gainControl, steady.voiceDetector⟩
    have farEnd := (MobileEchoControl.capture_alike rack.mobileEchoControl delay audio).1.2.1
    have taps : (rack.mobileEchoControl.capture delay audio).effect.farEnd.taps = 0 := by
      rw [farEnd]
      exact steady.untapped
    exact taps
  | measureGain =>
    exact ⟨exclusive, steady.untapped, steady.gainControl.measure audio, steady.voiceDetector⟩
  | applyGain =>
    exact ⟨exclusive, steady.untapped, steady.gainControl.capture audio, steady.voiceDetector⟩
  | voiceDetector =>
    exact ⟨exclusive, steady.untapped, steady.gainControl, steady.voiceDetector.capture audio⟩
  | _ => exact ⟨exclusive, steady.untapped, steady.gainControl, steady.voiceDetector⟩

/-- A stage of a frame to the loudspeaker keeps the effects steady. Taking a frame into what was
heard leaves the number of taps. -/
theorem Steady.renderStage (steady : rack.Steady) {audio : StreamBuffer} {stage : RenderStage}
    (done : stage.run rack audio = .ok next) : next.Steady := by
  have exclusive := exclusive_of_same steady (RenderStage.run_alike done).enabled
  cases stage with
  | echoCanceller =>
    obtain ⟨effect, taken, rfl⟩ := exists_of_map_eq_ok done
    exact ⟨exclusive, steady.untapped, steady.gainControl, steady.voiceDetector⟩
  | mobileEchoControl =>
    obtain ⟨effect, taken, rfl⟩ := exists_of_map_eq_ok done
    rw [MobileEchoControl.render_eq] at taken
    obtain ⟨farEnd, entered, rfl⟩ := exists_of_map_eq_ok taken
    obtain ⟨-, rfl⟩ := FarEnd.of_intake entered
    exact ⟨exclusive, steady.untapped, steady.gainControl, steady.voiceDetector⟩
  | gainControl =>
    cases done
    exact ⟨exclusive, steady.untapped, steady.gainControl.render audio, steady.voiceDetector⟩
  | levelMeter =>
    cases done
    exact ⟨exclusive, steady.untapped, steady.gainControl, steady.voiceDetector⟩

/-- Preparing another effect does not touch the echo canceller, also if it had not been made for the
format yet. -/
theorem echoCanceller_prepare_of_ne (done : rack.prepare format kind = .ok next)
    (different : kind ≠ .echoCanceller) : next.echoCanceller = rack.echoCanceller := by
  cases kind with
  | echoCanceller => exact absurd rfl different
  | mobileEchoControl =>
    rw [prepare_mobileEchoControl] at done
    obtain ⟨effect, prepared, rfl⟩ := exists_of_map_eq_ok done
    rfl
  | _ =>
    cases done
    rfl

/-- Preparing other effects in a row does not touch the echo canceller, wherever the row ends. -/
theorem echoCanceller_prepareEach (rack : Rack) (format : Format) (kinds : List EffectKind)
    (others : EffectKind.echoCanceller ∉ kinds) :
    (prepareEach format kinds rack).2.echoCanceller = rack.echoCanceller := by
  induction kinds generalizing rack with
  | nil => rfl
  | cons kind kinds inductionHypothesis =>
    rw [List.mem_cons, not_or] at others
    simp only [Rack.prepareEach]
    cases done : rack.prepare format kind with
    | error fault => rfl
    | ok prepared =>
      exact (inductionHypothesis prepared others.2).trans
        (echoCanceller_prepare_of_ne done (Ne.symm others.1))

/-- Preparing an echo canceller that is on gives it the sizes of the format, whatever sizes it had.
-/
theorem cancellerSized_prepare (rack : Rack) (format : Format) :
    CancellerSized { rack with echoCanceller := rack.echoCanceller.prepare format } format := by
  intro enabled
  refine EchoCanceller.sizedFor_prepare rack.echoCanceller format ?_
  dsimp only at enabled
  rwa [EchoCanceller.enabled_prepare] at enabled

/-- Preparing all effects gives the echo canceller the sizes of the format even when another
effect refuses, because the echo canceller is prepared first and never refuses. -/
theorem cancellerSized_prepareAll (rack : Rack) (format : Format) :
    (prepareEach format EffectKind.all rack).2.CancellerSized format := by
  have first : Rack.prepare rack format .echoCanceller =
      .ok { rack with echoCanceller := rack.echoCanceller.prepare format } := rfl
  have sized := cancellerSized_prepare rack format
  unfold CancellerSized EffectKind.all prepareEach at *
  rw [first]
  dsimp only
  rw [echoCanceller_prepareEach _ _ _ (by decide)]
  exact sized

/-- A value that an effect takes keeps the sizes of the echo canceller: its own setters keep its
history and its channels, and those of other effects do not reach it. -/
theorem CancellerSized.adjust (sized : rack.CancellerSized format) {setting : Setting}
    (taken : rack.adjust setting = .ok next) : next.CancellerSized format := by
  cases adjusted taken with
  | echoCanceller setter its =>
    have tuned := Setting.tuned_echoCanceller its rack.echoCanceller
    intro enabled
    obtain ⟨made, sizes⟩ := sized (tuned.enabled.symm.trans enabled)
    constructor
    · rwa [EchoCanceller.MadeFor, tuned.farEnd, tuned.channels]
    · dsimp only
      rwa [tuned.farEnd, tuned.channels]
  | _ => exact sized

/-- A stage of a captured frame keeps the sizes of the echo canceller. Only its own stage writes to
it, and that one moves the weights of its filters without changing how many there are; for this the
audio has to be in shape. -/
theorem CancellerSized.captureStage (sized : rack.CancellerSized format) (delay : StreamDelay)
    {audio : StreamBuffer} (shaped : audio.Shaped format) (stage : CaptureStage) :
    (stage.run delay rack audio).effect.CancellerSized format := by
  cases stage with
  | echoCanceller =>
    intro enabled
    have same := (EchoCanceller.capture_alike rack.echoCanceller delay audio).1.1
    exact (sized (same.symm.trans enabled)).capture delay shaped
  | snapshot =>
    simp only [CaptureStage.run]
    split <;> exact sized
  | _ => exact sized

/-- A stage of a frame to the loudspeaker keeps the sizes of the echo canceller: taking in a frame
changes what was heard and none of the filters. -/
theorem CancellerSized.renderStage (sized : rack.CancellerSized format) {audio : StreamBuffer}
    {stage : RenderStage} (done : stage.run rack audio = .ok next) :
    next.CancellerSized format := by
  cases stage with
  | echoCanceller =>
    obtain ⟨effect, taken, rfl⟩ := exists_of_map_eq_ok done
    intro enabled
    have same := (EchoCanceller.render_alike taken).1
    exact (sized (same.symm.trans enabled)).render taken
  | mobileEchoControl =>
    obtain ⟨effect, taken, rfl⟩ := exists_of_map_eq_ok done
    exact sized
  | gainControl =>
    cases done
    exact sized
  | levelMeter =>
    cases done
    exact sized

/-- The stages of a captured frame keep the effects steady and the sizes of the echo canceller. The
induction carries the shape of the audio along, as every stage may change the audio and keeps its
shape. -/
theorem bounded_captureStages (steady : rack.Steady) (sized : rack.CancellerSized format)
    (delay : StreamDelay) {audio : StreamBuffer} (shaped : audio.Shaped format)
    (stages : List CaptureStage) :
    (CaptureStage.runEach delay stages rack audio).2.1.Steady ∧
      (CaptureStage.runEach delay stages rack audio).2.1.CancellerSized format := by
  induction stages generalizing rack audio with
  | nil => exact ⟨steady, sized⟩
  | cons stage stages inductionHypothesis =>
    have stillSteady := steady.captureStage delay audio stage
    have stillSized := sized.captureStage delay shaped stage
    have stillShaped := (CaptureStage.run_alike delay rack audio stage).2.shaped format shaped
    simp only [CaptureStage.runEach]
    split
    · exact inductionHypothesis stillSteady stillSized stillShaped
    · exact ⟨stillSteady, stillSized⟩

/-- The stages of a frame to the loudspeaker keep the effects steady and the sizes of the echo
canceller. A stage that refuses changes no effect, so a row that ends early keeps them as well. -/
theorem bounded_renderStages (steady : rack.Steady) (sized : rack.CancellerSized format)
    (audio : StreamBuffer) (stages : List RenderStage) :
    (RenderStage.runEach audio stages rack).2.Steady ∧
      (RenderStage.runEach audio stages rack).2.CancellerSized format := by
  induction stages generalizing rack with
  | nil => exact ⟨steady, sized⟩
  | cons stage stages inductionHypothesis =>
    simp only [RenderStage.runEach]
    cases done : stage.run rack audio with
    | ok next => exact inductionHypothesis (steady.renderStage done) (sized.renderStage done)
    | error fault => exact ⟨steady, sized⟩

end Rack

namespace Engine

/-- All that is kept within bounds: the format and the storage, the reported delay, and the effects.
This is the invariant of a reachable engine that the freedom from faults rests on. -/
structure Bounded (engine : Engine) : Prop where
  stored : engine.Stored
  delay : 0 ≤ engine.delay.ms ∧ engine.delay.ms ≤ StreamDelay.limit
  steady : engine.rack.Steady
  sized : engine.rack.CancellerSized engine.format

variable {engine : Engine}

/-- An engine that was never started is within all bounds. Its echo canceller is off, so it has no
sizes to be right. -/
theorem bounded_blank (id : Int) {format : Format} (supported : format.Supported) :
    (blank id format).Bounded := by
  have atRest : (0 : Int) ≤ 0 ∧ (0 : Int) ≤ StreamDelay.limit := by decide
  exact ⟨stored_blank id supported, atRest, Rack.steady_new, fun enabled => by cases enabled⟩

/-- Starting an engine keeps it within bounds, also when an effect refuses the format. The echo
canceller is then prepared already and fits the format that the engine is left with. -/
theorem Bounded.restart {format : Format} (bounded : engine.Bounded)
    (supported : format.Supported) :
    (Engine.restart { engine with format }).state.Bounded := by
  have stored := stored_restart { engine with format } supported
  rw [restart_state] at stored ⊢
  exact ⟨stored, bounded.delay, bounded.steady.prepareEach format EffectKind.all,
    Rack.cancellerSized_prepareAll engine.rack format⟩

/-- Switching an effect keeps the engine within bounds. An echo canceller that goes on is prepared
for the format at hand; one that is to be on and was on before fits it already; and switching any
other effect does not concern its sizes. -/
theorem Bounded.enable (bounded : engine.Bounded) (kind : EffectKind) (enabled : Bool)
    (stored : (Engine.enable kind enabled engine).state.Stored) :
    (Engine.enable kind enabled engine).state.Bounded := by
  rcases enable_cases kind enabled engine with ⟨_, _, state⟩ |
    ⟨rack, _, free, off, done, _, state⟩ | ⟨wasOn, _, state⟩
  · rw [state]
    exact bounded
  · rw [state] at stored ⊢
    have switched := bounded.steady.switch kind true fun _ => free
    refine ⟨stored, bounded.delay, switched.prepare done, ?_⟩
    by_cases isCanceller : kind = .echoCanceller
    · subst isCanceller
      cases done
      exact Rack.cancellerSized_prepare _ engine.format
    · have same := Rack.echoCanceller_prepare_of_ne done isCanceller
      simp only [Rack.CancellerSized]
      rw [same]
      cases kind <;> first | exact absurd rfl isCanceller | exact bounded.sized
  · rw [state] at stored ⊢
    refine ⟨stored, bounded.delay,
      bounded.steady.switch kind enabled fun on => (wasOn on).1, ?_⟩
    cases kind with
    | echoCanceller =>
      intro on
      obtain ⟨made, sizes⟩ := bounded.sized (wasOn on).2
      exact ⟨made, sizes⟩
    | _ => exact bounded.sized

/-- A captured frame keeps the engine within bounds, in each of the three ways the call can end. The
stages see audio in the shape of the format because the frame matched it. -/
theorem Bounded.capture (bounded : engine.Bounded) {frame : Frame}
    (wellFormed : frame.WellFormed) : (engine.capture frame).1.state.Bounded := by
  have stored := bounded.stored.capture wellFormed
  rcases capture_cases engine frame with ⟨_, _, _, state, _⟩ | ⟨_, _, _, _, _, state, _⟩ |
    ⟨recorder, matching, _, _, state, _⟩
  · rw [state]
    exact bounded
  · rw [state] at stored ⊢
    exact ⟨stored, bounded.delay, bounded.steady, bounded.sized⟩
  · rw [state] at stored ⊢
    have loaded := shaped_loadCaptured { engine with recorder }
      bounded.stored.supported bounded.stored.capturing wellFormed matching
    have kept := Rack.bounded_captureStages bounded.steady bounded.sized engine.delay loaded
      CaptureStage.order
    simp only [process] at stored ⊢
    split at stored
    case h_1 outcome =>
      rw [outcome] at kept
      exact ⟨stored, bounded.delay, kept.1, kept.2⟩
    case h_2 outcome =>
      rw [outcome] at kept
      exact ⟨stored, bounded.delay, kept.1, kept.2⟩

/-- A frame to the loudspeaker keeps the engine within bounds, by the same three cases. -/
theorem Bounded.render (bounded : engine.Bounded) {frame : Frame}
    (wellFormed : frame.WellFormed) : (Engine.render frame engine).state.Bounded := by
  have stored := bounded.stored.render wellFormed
  rcases render_cases engine frame with ⟨_, _, _, state⟩ | ⟨_, _, _, _, _, state⟩ |
    ⟨recorder, matching, _, state⟩
  · rw [state]
    exact bounded
  · rw [state] at stored ⊢
    exact ⟨stored, bounded.delay, bounded.steady, bounded.sized⟩
  · rw [state] at stored ⊢
    have kept := Rack.bounded_renderStages bounded.steady bounded.sized
      ((engine.rendering.load frame).splitChannels frame.channelCount) RenderStage.order
    simp only [observe] at stored ⊢
    split at stored
    case h_1 outcome =>
      rw [outcome] at kept
      exact ⟨stored, bounded.delay, kept.1, kept.2⟩
    case h_2 outcome =>
      rw [outcome] at kept
      exact ⟨stored, bounded.delay, kept.1, kept.2⟩

/-- Every call keeps the engine within bounds.

Proof: that the storage is kept in shape was proved before and is used for all calls at once. A call
with a target starts the engine anew or is refused; of the others, switching and the two kinds of
frame are the lemmas above, a setting is taken by one effect, and a reported delay is confined to
its range. What is left does not write to anything that is bounded, but for the level meter, which
has no bounds. -/
theorem Bounded.perform (bounded : engine.Bounded) {call : Call} (wellFormed : call.WellFormed) :
    (engine.perform call).state.Bounded := by
  have stored := bounded.stored.perform wellFormed
  cases target : call.target? engine.format with
  | some change =>
    cases change with
    | error cause =>
      rw [(perform_of_target_error target).2]
      exact bounded
    | ok format =>
      rw [perform_of_target target]
      exact bounded.restart (supported_target bounded.stored.supported target)
  | none =>
    cases call with
    | restart => cases target
    | setRate hz => cases target
    | setChannels input output => cases target
    | setReverseChannels channels => cases target
    | enable kind enabled => exact bounded.enable kind enabled stored
    | adjust setting =>
      simp only [Engine.perform, adjust] at stored ⊢
      dsimp only [replying] at stored ⊢
      cases taken : engine.rack.adjust setting with
      | ok rack =>
        simp only [taken] at stored
        exact ⟨stored, bounded.delay, bounded.steady.adjust taken, bounded.sized.adjust taken⟩
      | error fault => exact bounded
    | reportDelay ms =>
      have inside := StreamDelay.report_bounds engine.delay ms bounded.delay
      simp only [Engine.perform, reportDelay] at stored ⊢
      dsimp only [replying] at stored ⊢
      split at stored <;> exact ⟨stored, inside, bounded.steady, bounded.sized⟩
    | capture frame => exact bounded.capture wellFormed
    | render frame => exact bounded.render wellFormed
    | takeCapturedLevel =>
      have steady := bounded.steady
      exact ⟨stored, bounded.delay,
        ⟨steady.exclusive, steady.untapped, steady.gainControl, steady.voiceDetector⟩,
        bounded.sized⟩
    | takeRenderedLevel =>
      have steady := bounded.steady
      exact ⟨stored, bounded.delay,
        ⟨steady.exclusive, steady.untapped, steady.gainControl, steady.voiceDetector⟩,
        bounded.sized⟩
    | _ => exact ⟨stored, bounded.delay, bounded.steady, bounded.sized⟩

/-- Every reachable engine is within all bounds, by induction on the calls that led to it. -/
theorem Reachable.bounded (reached : engine.Reachable) : engine.Bounded :=
  reachable_induction (fun id _ supported => bounded_blank id supported)
    (fun _ _ wellFormed bounded => bounded.perform wellFormed) reached

end Engine

end VoiceEngine
