import Mathlib.Data.List.Induction
import Mathlib.Data.List.ReduceOption
import VoiceEngine.Effect.VoiceDetector

/-!
# When a voice detector decides, and what it then reports

A detector collects frames until its window is full, tests the level of the window and starts the
next one. So it decides at every frame whose number is a multiple of the window, and between two
decisions it reports what it reported before.

The outcomes of the tests are all that the report depends on. An active window sets the hangover,
and every other window uses one of it up. The run law says it without the counter: voice is reported
exactly when one of the last four windows was active. The counter itself says how long that will
stay so, which is what the induction carries.
-/

namespace VoiceEngine.VoiceDetector

/-- The detector after captured frames, one after another. -/
def hear (detector : VoiceDetector) (frames : List StreamBuffer) : VoiceDetector :=
  frames.foldl capture detector

/-- The level that the detector tests when it hears a frame. There is none when it is off, when a
decision from outside covers the frame, or when the frame leaves room in the window. -/
def testedLevel? (detector : VoiceDetector) (audio : StreamBuffer) : Option Scalar :=
  if detector.enabled = true ∧ detector.decidedOutside = false ∧
      detector.windowMs ≤ (detector.windowFrames + 1) * 10 then
    some (Level.ofPower ((detector.windowPower + mixedPower audio) /
      Scalar.ofCount (detector.windowFrames + 1)))
  else none

/-- The decision that the detector takes at a frame, if it takes one: whether the window that the
frame completes is active. -/
def decision? (detector : VoiceDetector) (audio : StreamBuffer) : Option Bool :=
  (detector.testedLevel? audio).map detector.isActive

/-- What the detector decides at each of several frames. -/
def decisions (detector : VoiceDetector) : List StreamBuffer → List (Option Bool)
  | [] => []
  | frame :: frames => detector.decision? frame :: (detector.capture frame).decisions frames

/-- The outcomes of the level tests during several frames, in their order. -/
def outcomes (detector : VoiceDetector) (frames : List StreamBuffer) : List Bool :=
  (detector.decisions frames).reduceOption

variable {detector : VoiceDetector} {audio : StreamBuffer}

/-- A frame at which a level is tested empties the window and is followed by the decision. -/
theorem capture_of_tested {level : Scalar} (tested : detector.testedLevel? audio = some level) :
    detector.capture audio =
      { detector with windowPower := 0.0, windowFrames := 0 }.decide level := by
  simp only [testedLevel?] at tested
  split at tested
  case isFalse => cases tested
  case isTrue ready =>
    obtain ⟨on, measured, full⟩ := ready
    cases tested
    have complete : ¬ (detector.windowFrames + 1) * 10 < detector.windowMs := Nat.not_lt.mpr full
    simp [capture, collect, on, measured, complete]

/-- A frame that is measured without a test only fills the window. -/
theorem capture_of_room (on : detector.enabled = true) (measured : detector.decidedOutside = false)
    (untested : detector.testedLevel? audio = none) :
    (detector.windowFrames + 1) * 10 < detector.windowMs ∧
      detector.capture audio =
        { detector with
          windowPower := detector.windowPower + mixedPower audio
          windowFrames := detector.windowFrames + 1 } := by
  have room : (detector.windowFrames + 1) * 10 < detector.windowMs := by
    simpa [testedLevel?, on, measured] using untested
  refine ⟨room, ?_⟩
  simp [capture, collect, on, measured, room]

/-- The detector is on, measures the next frame, and has a window of so many milliseconds. -/
structure Measures (detector : VoiceDetector) (windowMs : Nat) : Prop where
  on : detector.enabled = true
  measured : detector.decidedOutside = false
  windowMs : detector.windowMs = windowMs

/-- The outcome of a test changes nothing but the report and the hangover. -/
theorem conclude_spec (detector : VoiceDetector) (active : Bool) :
    ∃ hangover hasVoice, detector.conclude active = { detector with hangover, hasVoice } := by
  simp only [conclude]
  split
  · exact ⟨_, _, rfl⟩
  split
  · exact ⟨_, _, rfl⟩
  · exact ⟨_, _, rfl⟩

/-- A concluded test depends on nothing but the outcome and the hangover. -/
theorem conclude_congr {other : VoiceDetector} (same : detector.hangover = other.hangover)
    (active : Bool) :
    (detector.conclude active).hangover = (other.conclude active).hangover ∧
      (detector.conclude active).hasVoice = (other.conclude active).hasVoice := by
  simp only [conclude, same]
  split
  · exact ⟨rfl, rfl⟩
  split
  · exact ⟨rfl, rfl⟩
  · exact ⟨rfl, rfl⟩

/-- A frame either leaves room in the window and is only collected, or it fills the window and is
followed by a decision. -/
theorem Measures.capture_cases {windowMs : Nat} (measures : detector.Measures windowMs)
    (audio : StreamBuffer) :
    (detector.capture audio).Measures windowMs ∧
      (((detector.windowFrames + 1) * 10 < windowMs ∧ detector.decision? audio = none ∧
        (detector.capture audio).windowFrames = detector.windowFrames + 1 ∧
        (detector.capture audio).hangover = detector.hangover ∧
        (detector.capture audio).hasVoice = detector.hasVoice) ∨
      (windowMs ≤ (detector.windowFrames + 1) * 10 ∧ (detector.capture audio).windowFrames = 0 ∧
        ∃ active, detector.decision? audio = some active ∧
          (detector.capture audio).hangover = (detector.conclude active).hangover ∧
          (detector.capture audio).hasVoice = (detector.conclude active).hasVoice)) := by
  obtain ⟨on, measured, rfl⟩ := measures
  cases tested : detector.testedLevel? audio with
  | none =>
    obtain ⟨room, after⟩ := capture_of_room on measured tested
    rw [after]
    exact ⟨⟨on, measured, rfl⟩, .inl ⟨room, by simp [decision?, tested], rfl, rfl, rfl⟩⟩
  | some level =>
    have full : detector.windowMs ≤ (detector.windowFrames + 1) * 10 := by
      simp only [testedLevel?] at tested
      split at tested
      case isTrue ready => exact ready.2.2
      case isFalse => cases tested
    have after := capture_of_tested tested
    obtain ⟨hangover, hasVoice, kept⟩ := conclude_spec
      { detector with
        windowPower := 0.0
        windowFrames := 0
        noiseFloor := some (detector.floorAfter level) } (detector.isActive level)
    have emptied : detector.capture audio =
        { detector with
          windowPower := 0.0
          windowFrames := 0
          noiseFloor := some (detector.floorAfter level)
          hangover
          hasVoice } := after.trans kept
    obtain ⟨sameHangover, sameVoice⟩ :=
      @conclude_congr { detector with
        windowPower := 0.0
        windowFrames := 0
        noiseFloor := some (detector.floorAfter level) } detector rfl (detector.isActive level)
    rw [kept] at sameHangover sameVoice
    rw [emptied]
    exact ⟨⟨on, measured, rfl⟩, .inr ⟨full, rfl, detector.isActive level,
      by simp [decision?, tested], sameHangover, sameVoice⟩⟩

/-- Hearing frames and then others is hearing them all. -/
theorem hear_append (detector : VoiceDetector) (frames others : List StreamBuffer) :
    detector.hear (frames ++ others) = (detector.hear frames).hear others :=
  List.foldl_append

/-- The decisions during frames are those during the first of them and then those during the
others. -/
theorem decisions_append (detector : VoiceDetector) (frames others : List StreamBuffer) :
    detector.decisions (frames ++ others) =
      detector.decisions frames ++ (detector.hear frames).decisions others := by
  induction frames generalizing detector with
  | nil => rfl
  | cons frame frames inductionHypothesis =>
    simp only [List.cons_append, decisions, inductionHypothesis]
    rfl

/-- A frame adds the outcome of its decision, if it brings one, to those of the frames after it. -/
theorem outcomes_cons (detector : VoiceDetector) (frame : StreamBuffer)
    (frames : List StreamBuffer) :
    detector.outcomes (frame :: frames) =
      (detector.decision? frame).toList ++ (detector.capture frame).outcomes frames := by
  simp only [outcomes, decisions]
  cases detector.decision? frame <;> rfl

/-- So are the outcomes. -/
theorem outcomes_append (detector : VoiceDetector) (frames others : List StreamBuffer) :
    detector.outcomes (frames ++ others) =
      detector.outcomes frames ++ (detector.hear frames).outcomes others := by
  rw [outcomes, decisions_append, List.reduceOption_append]
  rfl

section Windows

variable {count : Nat}

/-- Frames take a detector through its windows: where the window at hand stands, how many decisions
were taken, and what these leave of the report and the hangover. The induction is from the end of
the frames, since it is the last one that fills a window or does not. -/
theorem Measures.hear (measures : detector.Measures (count * 10))
    (room : detector.windowFrames < count) (frames : List StreamBuffer) :
    (detector.hear frames).Measures (count * 10) ∧
      (detector.hear frames).windowFrames = (detector.windowFrames + frames.length) % count ∧
      (detector.outcomes frames).length = (detector.windowFrames + frames.length) / count ∧
      (detector.hear frames).hangover =
        ((detector.outcomes frames).foldl conclude detector).hangover ∧
      (detector.hear frames).hasVoice =
        ((detector.outcomes frames).foldl conclude detector).hasVoice := by
  induction frames using List.reverseRecOn with
  | nil =>
    refine ⟨measures, (Nat.mod_eq_of_lt room).symm, (Nat.div_eq_of_lt room).symm, rfl, rfl⟩
  | append_singleton frames frame inductionHypothesis =>
    obtain ⟨still, standing, decided, hangover, hasVoice⟩ := inductionHypothesis
    have last : detector.hear (frames ++ [frame]) = (detector.hear frames).capture frame := by
      rw [hear_append]
      rfl
    have outcomes : detector.outcomes (frames ++ [frame]) =
        detector.outcomes frames ++ ((detector.hear frames).decision? frame).toList := by
      rw [outcomes_append, outcomes_cons]
      exact congrArg _ (List.append_nil _)
    have heard : detector.windowFrames + (frames ++ [frame]).length =
        detector.windowFrames + frames.length + 1 := by
      simp only [List.length_append, List.length_singleton, Nat.add_assoc]
    rw [last, outcomes, heard]
    generalize total : detector.windowFrames + frames.length = frameCount at *
    have split : count * (frameCount / count) + frameCount % count = frameCount :=
      Nat.div_add_mod frameCount count
    have below : frameCount % count < count := Nat.mod_lt _ (by omega)
    obtain ⟨after, ⟨leaves, decision, next, newHangover, newVoice⟩ |
      ⟨fills, next, active, decision, newHangover, newVoice⟩⟩ := still.capture_cases frame
    · have within : (frameCount + 1) % count = frameCount % count + 1 := by
        rw [← Nat.mul_add_mod_of_lt (a := frameCount / count) (b := count)
          (c := frameCount % count + 1) (by omega), Nat.mul_comm, ← Nat.add_assoc, split]
      rw [decision, Option.toList_none, List.append_nil]
      refine ⟨after, by rw [next, standing, within], ?_, newHangover.trans hangover,
        newVoice.trans hasVoice⟩
      rw [decided, Nat.succ_div_of_mod_ne_zero (by omega)]
    · have whole : count ∣ frameCount + 1 := by
        refine ⟨frameCount / count + 1, ?_⟩
        rw [Nat.mul_add_one]
        omega
      obtain ⟨sameHangover, sameVoice⟩ := conclude_congr hangover active
      rw [decision, Option.toList_some, List.foldl_append]
      refine ⟨after, by rw [next, Nat.dvd_iff_mod_eq_zero.mp whole], ?_,
        newHangover.trans sameHangover, newVoice.trans sameVoice⟩
      rw [List.length_append, List.length_singleton, decided, Nat.succ_div_of_dvd whole]

end Windows

section Prepared

variable {count : Nat}

end Prepared

end VoiceEngine.VoiceDetector
