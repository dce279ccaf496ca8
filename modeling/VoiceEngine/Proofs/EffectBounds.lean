import VoiceEngine.Proofs.Passes
import VoiceEngine.Proofs.Setters

/-!
# Bounds that single effects keep

Beside what an effect was made for, three effects keep their numbers within bounds. The channels of
an echo canceller have as many weights as its history has taps, and room for one frame. The
volumes, levels and gains of gain control lie within their limits, and its recommendation within
the range of the volume. The window of a voice detector is never complete between frames. Every
pass keeps these bounds, and so does every setting that is taken.
-/

namespace VoiceEngine

namespace FarEnd

/-- The values that the taps reach back to, when the frame begins late enough for all of them. -/
theorem length_context (farEnd : FarEnd) (frameLength delay : Nat)
    (fits : farEnd.Fits frameLength) (short : delay ≤ farEnd.maxDelay) :
    (farEnd.context frameLength delay).length = farEnd.taps - 1 := by
  have total : farEnd.history.length = farEnd.maxDelay + farEnd.taps + frameLength := fits
  simp only [context, start]
  rw [List.length_reverse, List.length_take, List.length_drop]
  omega

/-- A delay in values is never more than the longest one. -/
theorem delayOf_le (farEnd : FarEnd) (ms : Int) : farEnd.delayOf ms ≤ farEnd.maxDelay :=
  Nat.min_le_right _ _

end FarEnd

namespace EchoCanceller

/-- Weights keep their number while the filter runs, because the far-end values of every sample
reach back at least as far as the weights. -/
theorem length_weights_filter (regularization : Scalar) (weights past : List Scalar)
    (pairs : List (Sample × Scalar)) (enough : weights.length ≤ past.length + 1) :
    (filter regularization weights past pairs).1.length = weights.length := by
  induction pairs generalizing weights past with
  | nil => rfl
  | cons pair rest inductionHypothesis =>
    obtain ⟨sample, value⟩ := pair
    simp only [filter]
    generalize stepSize * (Sample.toScalar sample - (predict 0.0 0.0 weights (value :: past)).1) /
      ((predict 0.0 0.0 weights (value :: past)).2 + regularization) = step
    have moved : (adapt step weights (value :: past)).length = weights.length := by
      simp only [adapt, List.length_zipWith, List.length_cons]
      omega
    have later : (adapt step weights (value :: past)).length ≤ (value :: past).length + 1 := by
      rw [moved, List.length_cons]
      omega
    rw [inductionHypothesis _ _ later, moved]

/-- The canceller of one channel has so many taps and works on bands of one length. -/
structure Channel.Sized (channel : Channel) (taps bandLength : Nat) : Prop where
  weights : channel.weights.length = taps
  left : channel.left.length = bandLength
  echo : channel.echo.length = bandLength

/-- The state of the echo canceller has all the sizes of a format. -/
structure SizedFor (effect : EchoCanceller) (format : Format) : Prop where
  made : effect.MadeFor format
  channels : ∀ channel ∈ effect.channels, channel.Sized effect.farEnd.taps format.bandLength

/-- Preparing an echo canceller that is on gives it the sizes of the format. -/
theorem sizedFor_prepare (effect : EchoCanceller) (format : Format)
    (enabled : effect.enabled = true) : (effect.prepare format).SizedFor format := by
  refine ⟨madeFor_prepare effect format enabled, ?_⟩
  simp only [prepare]
  rw [if_pos enabled]
  intro channel member
  rw [List.eq_of_mem_replicate member]
  exact ⟨List.length_replicate, List.length_replicate, List.length_replicate⟩

/-- Cancelling in a channel keeps the sizes of all channels. -/
theorem sized_cancelChannel {farEnd : FarEnd} {aligned : Aligned} {bandLength : Nat}
    {effect : EchoCanceller} {audio : StreamBuffer} {index : Nat}
    (sized : ∀ channel ∈ effect.channels, channel.Sized farEnd.taps bandLength)
    (near : (audio.lowBand index).length = bandLength)
    (far : aligned.reference.length = bandLength) (past : aligned.past.length = farEnd.taps - 1) :
    ∀ channel ∈ (cancelChannel aligned (effect, audio) index).1.channels,
      channel.Sized farEnd.taps bandLength := by
  simp only [cancelChannel]
  split
  case h_1 => exact sized
  case h_2 channel found =>
    intro other otherMember
    rcases List.mem_or_eq_of_mem_set otherMember with old | rfl
    · exact sized other old
    · have size := sized channel (List.mem_of_getElem? found)
      have residues := Channel.length_run channel aligned.past (audio.lowBand index)
        aligned.reference
      rw [near, far, Nat.min_self] at residues
      have enough : channel.weights.length ≤ aligned.past.length + 1 := by
        rw [past, size.weights]
        omega
      exact ⟨(length_weights_filter _ _ _ _ enough).trans size.weights, residues.1, residues.2⟩

/-- Cancelling keeps the sizes, when the audio has the shape of the format. -/
theorem SizedFor.capture {effect : EchoCanceller} {format : Format}
    (sized : effect.SizedFor format) (delay : StreamDelay) {audio : StreamBuffer}
    (shaped : audio.Shaped format) : (effect.capture delay audio).effect.SizedFor format := by
  refine ⟨capture_madeFor effect delay audio sized.made, ?_⟩
  rw [(capture_alike effect delay audio).1.2.1]
  unfold EchoCanceller.capture
  split
  · exact sized.channels
  split
  · exact sized.channels
  dsimp only
  split
  case isFalse => exact sized.channels
  case isTrue fits =>
    refine (StreamBuffer.foldl_alike (fun after : EchoCanceller =>
      ∀ channel ∈ after.channels, channel.Sized effect.farEnd.taps format.bandLength)
      (cancelChannel (align effect.farEnd audio.bandLength delay.ms))
      { effect with driftIsSet := false, hasEcho := false } audio sized.channels ?_).1
    intro after now index same member known
    have far := length_reference_align effect delay fits.1
    have past : (align effect.farEnd audio.bandLength delay.ms).past.length =
        effect.farEnd.taps - 1 :=
      FarEnd.length_context effect.farEnd audio.bandLength (effect.farEnd.delayOf delay.ms)
        fits.1 (FarEnd.delayOf_le effect.farEnd delay.ms)
    have near := (same.shaped format shaped).length_lowBand
      ((same.shaped format shaped).lt_of_mem_used member)
    exact ⟨sized_cancelChannel known near (far.trans shaped.bandLength) past,
      cancelChannel_alike _ after now index member (far.trans same.bandLength.symm)⟩

/-- A far-end frame that is taken in keeps the sizes. -/
theorem SizedFor.render {effect next : EchoCanceller} {format : Format}
    (sized : effect.SizedFor format) {audio : StreamBuffer}
    (taken : effect.render audio = .ok next) : next.SizedFor format := by
  refine ⟨(render_alike taken).2 format sized.made, ?_⟩
  rw [render_eq] at taken
  obtain ⟨farEnd, entered, rfl⟩ := exists_of_map_eq_ok taken
  obtain ⟨-, rfl⟩ := FarEnd.of_intake entered
  exact sized.channels

end EchoCanceller

namespace GainControl

/-- The settings of gain control lie within their limits, and the recommended volume lies within
the range that is set. -/
structure Bounded (effect : GainControl) : Prop where
  range : 0 ≤ effect.minVolume ∧ effect.minVolume < effect.maxVolume ∧
    effect.maxVolume ≤ volumeLimit
  recommended : effect.minVolume ≤ effect.recommended ∧ effect.recommended ≤ effect.maxVolume
  target : 0 ≤ effect.target ∧ effect.target ≤ targetLimit
  compression : 0 ≤ effect.compression ∧ effect.compression ≤ compressionLimit

variable {effect next : GainControl}

/-- Preparing keeps the bounds: the recommendation is the reported volume moved into the range. -/
theorem Bounded.prepare (bounded : effect.Bounded) : effect.prepare.Bounded := by
  simp only [GainControl.prepare]
  split
  · have ordered := Int.le_of_lt bounded.range.2.1
    exact ⟨bounded.range, Word.clip_bounds _ _ _ ordered, bounded.target, bounded.compression⟩
  · exact bounded

/-- Measuring keeps the bounds. -/
theorem Bounded.measure (bounded : effect.Bounded) (audio : StreamBuffer) :
    (effect.measure audio).Bounded := by
  simp only [GainControl.measure]
  split
  · exact ⟨bounded.range, bounded.recommended, bounded.target, bounded.compression⟩
  · exact bounded

/-- Taking in a far-end frame keeps the bounds. -/
theorem Bounded.render (bounded : effect.Bounded) (audio : StreamBuffer) :
    (effect.render audio).Bounded := by
  simp only [GainControl.render]
  split
  · exact ⟨bounded.range, bounded.recommended, bounded.target, bounded.compression⟩
  · exact bounded

/-- Applying the gain keeps the bounds: a new recommendation is moved into the range. -/
theorem Bounded.capture (bounded : effect.Bounded) (audio : StreamBuffer) :
    (effect.capture audio).effect.Bounded := by
  simp only [GainControl.capture]
  split
  · exact bounded
  split
  · exact bounded
  dsimp only [Pass.done]
  split
  · have ordered := Int.le_of_lt bounded.range.2.1
    exact ⟨bounded.range, Word.clip_bounds _ _ _ ordered, bounded.target, bounded.compression⟩
  · exact ⟨bounded.range, bounded.recommended, bounded.target, bounded.compression⟩

/-- Every value that gain control accepts keeps the bounds: each limit that it keeps to is a limit
that is checked when a value arrives, and a new range takes the recommendation along. -/
theorem Bounded.tuned (bounded : effect.Bounded) {setting : Setting} {setter : Setter GainControl}
    (its : setting.tuning = .gainControl setter) (accepted : setter.allows effect = true) :
    (setter.work effect).Bounded := by
  cases setting <;> cases its
  case volumeRange lowest highest =>
    obtain ⟨above, below, ordered⟩ := of_decide_eq_true accepted
    exact ⟨⟨above, ordered, below⟩, Word.clip_bounds _ _ _ (Int.le_of_lt ordered), bounded.target,
      bounded.compression⟩
  case targetLevel target =>
    exact ⟨bounded.range, bounded.recommended, of_decide_eq_true accepted, bounded.compression⟩
  case compressionGain compression =>
    exact ⟨bounded.range, bounded.recommended, bounded.target, of_decide_eq_true accepted⟩
  all_goals exact ⟨bounded.range, bounded.recommended, bounded.target, bounded.compression⟩

end GainControl

namespace VoiceDetector

/-- The window has one of its three lengths and is not full, and no more windows report voice
without being active than are allowed to. -/
structure Bounded (detector : VoiceDetector) : Prop where
  windowMs : detector.windowMs = 10 ∨ detector.windowMs = 20 ∨ detector.windowMs = 30
  windowFrames : detector.windowFrames * 10 < detector.windowMs
  hangover : detector.hangover ≤ hangoverWindows

variable {detector next : VoiceDetector}

/-- A window always has room for a first frame. -/
theorem Bounded.room (bounded : detector.Bounded) : 0 * 10 < detector.windowMs := by
  have length := bounded.windowMs
  omega

/-- Preparing keeps the bounds. -/
theorem Bounded.prepare (bounded : detector.Bounded) : detector.prepare.Bounded := by
  simp only [VoiceDetector.prepare]
  split
  · exact ⟨bounded.windowMs, bounded.room, Nat.zero_le hangoverWindows⟩
  · exact bounded

/-- The outcome of a level test keeps the bounds. -/
theorem Bounded.conclude (bounded : detector.Bounded) (active : Bool) :
    (detector.conclude active).Bounded := by
  have hangover := bounded.hangover
  simp only [VoiceDetector.conclude]
  split
  · exact ⟨bounded.windowMs, bounded.windowFrames, Nat.le_refl hangoverWindows⟩
  split
  · exact ⟨bounded.windowMs, bounded.windowFrames, by dsimp only; omega⟩
  · exact ⟨bounded.windowMs, bounded.windowFrames, hangover⟩

/-- Hearing a frame keeps the bounds: a frame that fills the window empties it. -/
theorem Bounded.capture (bounded : detector.Bounded) (audio : StreamBuffer) :
    (detector.capture audio).Bounded := by
  simp only [VoiceDetector.capture]
  split
  · exact bounded
  split
  · exact ⟨bounded.windowMs, bounded.windowFrames, bounded.hangover⟩
  simp only [collect]
  split
  case isTrue room => exact ⟨bounded.windowMs, room, bounded.hangover⟩
  case isFalse =>
    simp only [decide]
    refine Bounded.conclude ?_ _
    exact ⟨bounded.windowMs, bounded.room, bounded.hangover⟩

/-- Every value that the voice detector accepts keeps the bounds: a window length is one of the
three, and the window starts empty. -/
theorem Bounded.tuned (bounded : detector.Bounded) {setting : Setting}
    {setter : Setter VoiceDetector} (its : setting.tuning = .voiceDetector setter)
    (accepted : setter.allows detector = true) : (setter.work detector).Bounded := by
  cases setting <;> cases its
  case voiceWindow ms =>
    have length : ms = 10 ∨ ms = 20 ∨ ms = 30 := of_decide_eq_true accepted
    have room : 0 * 10 < ms := by omega
    exact ⟨length, room, bounded.hangover⟩
  all_goals exact ⟨bounded.windowMs, bounded.windowFrames, bounded.hangover⟩

end VoiceDetector

end VoiceEngine
