import VoiceEngine.Proofs.VoiceWindows

/-!
# How long a decision from outside is reported

A decision from outside keeps the next frame from being measured, and takes the place of the
decision that is reported. That frame is all that it covers of the measurement: the window, the
noise floor and the hangover go on behind it as if the frame had not been captured. The report does
not go back. The decision from outside has taken the place of the standing one, so it is reported
until the window at hand is full and the next decision is taken. With windows of one frame this is
the frame after the covered one, and with longer windows it can be one or two frames later.
-/

namespace VoiceEngine.VoiceDetector

/-- What the detector reports after each of several frames. -/
def reports (detector : VoiceDetector) : List StreamBuffer → List Bool
  | [] => []
  | frame :: frames => (detector.capture frame).hasVoice :: (detector.capture frame).reports frames

variable {detector : VoiceDetector}

/-- The frame that a decision from outside covers leaves nothing behind but the report. -/
theorem capture_supply (on : detector.enabled = true) (hasVoice : Bool) (audio : StreamBuffer) :
    (detector.supply hasVoice).capture audio =
      { detector with decidedOutside := false, hasVoice } := by
  simp [supply, capture, on]

/-- The frame of a detector that is on is collected when no decision from outside covers it. -/
theorem capture_of_measured (on : detector.enabled = true)
    (measured : detector.decidedOutside = false) (audio : StreamBuffer) :
    detector.capture audio = detector.collect (mixedPower audio) := by
  simp [capture, on, measured]

/-- A frame that leaves room in the window is added to it, and the report stands. -/
theorem collect_of_room (room : (detector.windowFrames + 1) * 10 < detector.windowMs)
    (power : Scalar) :
    detector.collect power =
      { detector with
        windowPower := detector.windowPower + power
        windowFrames := detector.windowFrames + 1 } := by
  simp only [collect, if_pos room]

/-- A decision replaces the report, whatever it was. -/
theorem decide_with_report (detector : VoiceDetector) (hasVoice : Bool) (level : Scalar) :
    { detector with hasVoice }.decide level = detector.decide level := by
  show { detector with noiseFloor := some (detector.floorAfter level), hasVoice }.conclude
      (detector.isActive level) = _
  simp only [decide, conclude]

/-- So does a frame that fills the window. -/
theorem collect_with_report (full : ¬ (detector.windowFrames + 1) * 10 < detector.windowMs)
    (hasVoice : Bool) (power : Scalar) :
    { detector with hasVoice }.collect power = detector.collect power := by
  simp only [collect, if_neg full]
  exact decide_with_report { detector with windowPower := 0.0, windowFrames := 0 } hasVoice _

/-- Once the next frame fills the window, no report of a list is replaced. -/
theorem mapIdx_of_full (full : detector.windowMs ≤ (detector.windowFrames + 1) * 10)
    (hasVoice : Bool) (given : List Bool) :
    (given.mapIdx fun index report =>
      if (detector.windowFrames + (index + 1)) * 10 < detector.windowMs then hasVoice
      else report) = given := by
  have kept (index : Nat) (report : Bool) :
      (if (detector.windowFrames + (index + 1)) * 10 < detector.windowMs then hasVoice
        else report) = report := if_neg (by omega)
  refine List.mapIdx_eq_iff.mpr fun index => ?_
  simp only [kept, Option.map_id']

/-- The reports of a detector that starts from another report: that one until the window is full,
and its own from then on. -/
theorem reports_with_report (on : detector.enabled = true)
    (measured : detector.decidedOutside = false) (hasVoice : Bool) (frames : List StreamBuffer) :
    { detector with hasVoice }.reports frames =
      (detector.reports frames).mapIdx fun index report =>
        if (detector.windowFrames + (index + 1)) * 10 < detector.windowMs then hasVoice
        else report := by
  induction frames generalizing detector with
  | nil => rfl
  | cons frame frames inductionHypothesis =>
    have other : { detector with hasVoice }.capture frame =
        { detector with hasVoice }.collect (mixedPower frame) :=
      @capture_of_measured { detector with hasVoice } on measured frame
    by_cases room : (detector.windowFrames + 1) * 10 < detector.windowMs
    · have otherRoom : ({ detector with hasVoice }.windowFrames + 1) * 10 < detector.windowMs :=
        room
      have later := @inductionHypothesis { detector with
        windowPower := detector.windowPower + mixedPower frame
        windowFrames := detector.windowFrames + 1 } on measured
      simp only [Nat.add_assoc, Nat.add_comm 1] at later
      simp only [reports, List.mapIdx_cons, Nat.zero_add]
      rw [other, capture_of_measured on measured, collect_of_room otherRoom, collect_of_room room,
        if_pos room]
      exact congrArg (hasVoice :: ·) later
    · rw [mapIdx_of_full (Nat.not_lt.mp room)]
      simp only [reports]
      rw [other, capture_of_measured on measured, collect_with_report room]

/-- A decision from outside stands until the next one. It is reported after the frame that it
covers. The later reports are those of the run that was never told it, except that it is reported
instead for as long as the window at hand is not full. So no decision from outside pending before,
the later reports are the same exactly when it confirmed the standing report or the next frame fills
the window, as every frame does with windows of 10 milliseconds. -/
theorem supply_stands_until_decision (detector : VoiceDetector) (on : detector.enabled = true)
    (hasVoice : Bool) (frame : StreamBuffer) (later : List StreamBuffer) :
    ((detector.supply hasVoice).capture frame).hasVoice = hasVoice ∧
    ((detector.supply hasVoice).capture frame).reports later =
      ({ detector with decidedOutside := false }.reports later).mapIdx (fun index report =>
        if (detector.windowFrames + (index + 1)) * 10 < detector.windowMs then hasVoice
        else report) ∧
    (detector.decidedOutside = false → later ≠ [] →
      (((detector.supply hasVoice).capture frame).reports later = detector.reports later ↔
        hasVoice = detector.hasVoice ∨
          detector.windowMs ≤ (detector.windowFrames + 1) * 10)) := by
  rw [capture_supply on]
  have law := @reports_with_report { detector with decidedOutside := false } on rfl hasVoice later
  refine ⟨rfl, law, fun measured some => ?_⟩
  obtain ⟨next, rest, rfl⟩ := List.exists_cons_of_ne_nil some
  have unchanged : { detector with decidedOutside := false } = detector := by
    rw [← measured]
  constructor
  · intro same
    by_cases room : (detector.windowFrames + 1) * 10 < detector.windowMs
    · have kept : (detector.capture next).hasVoice = detector.hasVoice := by
        rw [capture_of_measured on measured, collect_of_room room]
      rw [law, unchanged] at same
      simp only [reports, List.mapIdx_cons, Nat.zero_add, if_pos room, kept] at same
      exact .inl (List.cons.inj same).1
    · exact .inr (Nat.not_lt.mp room)
  · rintro (confirmed | full)
    · rw [confirmed, ← measured]
    · rw [law, unchanged]
      exact mapIdx_of_full full hasVoice _

/-- In the middle of a window of two frames, the next frame fills it, and the reports from there on
are those of the detector that was not told. -/
theorem supply_stands_until_decision_halfway :
    let detector : VoiceDetector := { enabled := true, windowMs := 20, windowFrames := 1 }
    let silent := StreamBuffer.ofFormat {}
    detector.enabled = true ∧ detector.decidedOutside = false ∧ [silent, silent] ≠ [] ∧
      ((detector.supply true).capture silent).hasVoice = true ∧
      ((detector.supply true).capture silent).reports [silent, silent] =
        detector.reports [silent, silent] := by
  intro detector silent
  obtain ⟨covered, -, agree⟩ :=
    supply_stands_until_decision detector rfl true silent [silent, silent]
  exact ⟨rfl, rfl, by simp, covered, (agree rfl (by simp)).mpr (.inr (by decide))⟩

/-- With a window of two frames, of which none is heard yet, voice supplied for a silent frame is
reported after the next silent frame too, where the detector that was not told reports none. -/
theorem supply_outlasts_frame :
    let detector : VoiceDetector := { enabled := true, windowMs := 20 }
    let silent := StreamBuffer.ofFormat {}
    ((detector.supply true).capture silent).reports [silent] = [true] ∧
      detector.reports [silent] = [false] := by
  exact ⟨rfl, rfl⟩

end VoiceEngine.VoiceDetector
