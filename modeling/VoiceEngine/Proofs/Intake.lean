import Mathlib.Data.List.GetD
import VoiceEngine.Effect.EchoCanceller
import VoiceEngine.Effect.MobileEchoControl

/-!
# What enters a far-end history

Two effects keep a far-end history, and a frame to the loudspeaker enters both by one rule. An
effect that is off leaves its history; one that is on takes in the values of a frame that the
history was made for and refuses any other. The rule is stated here once, for a history by itself,
and each of the effects is shown to follow it, so that what a frame does to a history need not be
found out for the two effects one by one.

The values that enter are the means of the low bands. They are computed band by band, in sums that
run through all instants at once; here they are told instant by instant, as the samples of one
instant added up in the order of the channels and divided by their number.
-/

namespace VoiceEngine

/-- A result that was made of an attempt was made of a value that the attempt gave. -/
theorem exists_of_map_eq_ok {Value Result : Type} {attempt : Except Fault Value}
    {place : Value → Result} {result : Result} (done : attempt.map place = .ok result) :
    ∃ value, attempt = .ok value ∧ place value = result := by
  cases attempt with
  | error fault => cases done
  | ok value => exact ⟨value, rfl, Except.ok.inj done⟩

namespace FarEnd

variable {farEnd next : FarEnd} {enabled : Bool} {audio : StreamBuffer}

/-- A history after a frame to the loudspeaker reached its effect. Only an effect that is on looks
at the frame; it refuses one whose length its history was not made for. -/
def intake (farEnd : FarEnd) (enabled : Bool) (audio : StreamBuffer) : Except Fault FarEnd :=
  if !enabled then .ok farEnd
  else if farEnd.Fits audio.bandLength then .ok (farEnd.push (ofBuffer audio))
  else .error .unspecified

/-- Entering nothing changes nothing. -/
@[simp] theorem push_nil (farEnd : FarEnd) : farEnd.push [] = farEnd := by
  simp [push]

/-- There is one cause of refusal. Every other frame enters with its values, which are none while
the effect is off. -/
theorem intake_eq (farEnd : FarEnd) (enabled : Bool) (audio : StreamBuffer) :
    farEnd.intake enabled audio =
      if enabled = true ∧ ¬ farEnd.Fits audio.bandLength then .error .unspecified
      else .ok (farEnd.push (if enabled = true then ofBuffer audio else [])) := by
  cases enabled with
  | false => simp [intake]
  | true =>
    by_cases fits : farEnd.Fits audio.bandLength
    · simp [intake, fits]
    · simp [intake, fits]

/-- A history that took a frame in fits it if its effect is on, and holds its values then. -/
theorem of_intake (taken : farEnd.intake enabled audio = .ok next) :
    (enabled = true → farEnd.Fits audio.bandLength) ∧
      next = farEnd.push (if enabled = true then ofBuffer audio else []) := by
  rw [intake_eq] at taken
  split at taken
  case isTrue => cases taken
  case isFalse fits =>
    constructor
    · intro on
      exact Decidable.not_not.mp fun short => fits ⟨on, short⟩
    · exact (Except.ok.inj taken).symm

/-- Bands of one length are added up instant by instant: every sum ends with the samples that the
bands have at its instant added to it, from the first band to the last. Induct along the bands for
any sums to begin with; a band moves every sum by its own sample there. -/
theorem foldl_sums {bands : List (List Sample)} {sums : List Scalar}
    (even : ∀ band ∈ bands, band.length = sums.length) :
    bands.foldl (fun sums band =>
        List.zipWith (fun sum sample => sum + Sample.toScalar sample) sums band) sums =
      (List.range sums.length).map fun instant =>
        bands.foldl (fun sum band => sum + Float32.ofInt (band.getD instant 0).toInt)
          (sums.getD instant 0.0) := by
  induction bands generalizing sums with
  | nil =>
    rw [List.foldl_nil]
    apply List.ext_getElem
    · rw [List.length_map, List.length_range]
    · intro instant inside _
      rw [List.getElem_map, List.getElem_range, List.foldl_nil, List.getD_eq_getElem _ _ inside]
  | cons band bands inductionHypothesis =>
    have length : band.length = sums.length := even band List.mem_cons_self
    have added : (List.zipWith (fun sum sample => sum + Sample.toScalar sample) sums
        band).length = sums.length := by
      rw [List.length_zipWith, length, Nat.min_self]
    rw [List.foldl_cons, inductionHypothesis fun other member =>
      (even other (List.mem_cons_of_mem band member)).trans added.symm, added]
    refine List.map_congr_left ?_
    intro instant member
    have inside : instant < sums.length := List.mem_range.mp member
    have alsoInside : instant < band.length := length ▸ inside
    rw [List.foldl_cons, List.getD_eq_getElem _ _ (added ▸ inside), List.getElem_zipWith,
      List.getD_eq_getElem _ _ inside, List.getD_eq_getElem _ _ alsoInside]
    rfl

/-- The mean of bands of one length at an instant is the sum of their samples there, divided by the
number of bands. -/
theorem meanBand_eq {length : Nat} {bands : List (List Sample)} (some_band : 1 ≤ bands.length)
    (even : ∀ band ∈ bands, band.length = length) :
    meanBand length bands = (List.range length).map fun instant =>
      (bands.map fun band => Float32.ofInt (band.getD instant 0).toInt).foldl (· + ·) 0.0 /
        Float32.ofNat bands.length := by
  have silent : (List.replicate length (0.0 : Scalar)).length = length := List.length_replicate
  have alike : ∀ band ∈ bands, band.length = (List.replicate length (0.0 : Scalar)).length :=
    fun band member => (even band member).trans silent.symm
  have sums := foldl_sums alike
  rw [silent] at sums
  rw [meanBand, sums, List.map_map, Nat.max_eq_left some_band]
  refine List.map_congr_left ?_
  intro instant member
  have inside : instant < (List.replicate length (0.0 : Scalar)).length :=
    silent.symm ▸ List.mem_range.mp member
  rw [Function.comp_apply, List.getD_eq_getElem _ _ inside, List.getElem_replicate, List.foldl_map]
  rfl

end FarEnd

/-- The echo canceller takes frames to the loudspeaker in by the rule of its history, and changes
nothing else. -/
theorem EchoCanceller.render_eq (effect : EchoCanceller) (audio : StreamBuffer) :
    effect.render audio = (effect.farEnd.intake effect.enabled audio).map fun farEnd =>
      { effect with farEnd } := by
  simp only [render, FarEnd.intake]
  split
  · rfl
  · split <;> rfl

/-- So does mobile echo control. -/
theorem MobileEchoControl.render_eq (effect : MobileEchoControl) (audio : StreamBuffer) :
    effect.render audio = (effect.farEnd.intake effect.enabled audio).map fun farEnd =>
      { effect with farEnd } := by
  simp only [render, FarEnd.intake]
  split
  · rfl
  · split <;> rfl

end VoiceEngine
