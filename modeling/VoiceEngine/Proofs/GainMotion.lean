import VoiceEngine.Proofs.EffectBounds
import VoiceEngine.Proofs.ScalarNumbers

/-!
# How far the gain moves

For every frame the gain of the adaptive modes moves toward what the measured level calls for, by at
most half a decibel up and two decibels down. Both the way and the end are rounded, and still the
bounds are kept exactly. What the level calls for lies between zero and the largest gain. A gain
that is at most the largest one does not pass it. A gain that is above it, because the largest gain
was lowered, falls, and is down at once exactly when it was at most two decibels above. Quiet input
leaves the gain where it is.
-/

namespace VoiceEngine.GainControl

open Scalar

/-- One decibel, in the units that scalars are counted in. -/
def decibel : Int := 2 ^ 149

/-- Half a decibel. -/
def halfDecibel : Int := 2 ^ 148

/-- A gain can come out here that moves toward what is desired, but not up if it is held. Both the
difference and the sum are rounded; all that is known of them is that they are rounded faithfully.
-/
def Moves (gain desired : Int) (held : Bool) (next : Int) : Prop :=
  ∃ change, Faithful (desired - gain) change ∧
    Faithful
      (gain + min halfDecibel (max (-(2 * decibel)) (if held then min change 0 else change))) next

variable {gain desired bound next : Int} {held : Bool}

/-- A gain that is desired to stay stays: the difference is zero, which needs no rounding, and
neither does the gain. -/
theorem Moves.eq_of_desired (moves : Moves gain gain held next) (storable : Storable gain) :
    next = gain := by
  obtain ⟨change, way, arrival⟩ := moves
  have none : change = 0 := by
    have below := (way 0 storable_zero).1 (by omega)
    have above := (way 0 storable_zero).2 (by omega)
    omega
  have still : min halfDecibel (max (-(2 * decibel)) (if held then min change 0 else change)) =
      0 := by
    rw [none, min_self, ite_self]
    rfl
  rw [still] at arrival
  have below := (arrival gain storable).1 (by omega)
  have above := (arrival gain storable).2 (by omega)
  omega

/-- A gain that moves toward something between zero and the largest gain stays between zero and the
larger of that and what it was. It does not end above the largest gain, unless it was above by more
than it can fall. -/
theorem Moves.bounds (moves : Moves gain desired held next) (storable : Storable gain)
    (gainRange : 0 ≤ gain ∧ gain ≤ compressionLimit * decibel)
    (boundRange : 0 ≤ bound ∧ bound ≤ compressionLimit)
    (desiredRange : 0 ≤ desired ∧ desired ≤ bound * decibel) :
    0 ≤ next ∧ next ≤ max gain (bound * decibel) ∧
      (next ≤ bound * decibel ↔ gain ≤ (bound + 2) * decibel) := by
  obtain ⟨change, way, arrival⟩ := moves
  have whole : Storable (bound * decibel) := by
    refine storable_whole ?_
    simp only [compressionLimit] at boundRange
    omega
  have limit : gain.natAbs < 2 ^ 24 * 2 ^ 149 := by
    simp only [compressionLimit, decibel] at gainRange
    omega
  -- A difference from whole decibels is exact where it is not larger than the gain.
  have toBound : (bound * decibel - gain).natAbs ≤ gain.natAbs →
      Storable (bound * decibel - gain) := storable.whole_sub limit
  have toTwo : (2 * decibel - gain).natAbs ≤ gain.natAbs → Storable (gain - 2 * decibel) := by
    intro near
    have reversed := (storable.whole_sub limit near).neg
    rwa [Int.neg_sub] at reversed
  have step : bound * decibel = 0 ∨ decibel ≤ bound * decibel := by
    rcases Int.lt_or_eq_of_le boundRange.1 with positive | none
    · exact .inr (by simp only [decibel]; omega)
    · exact .inl (by rw [← none, Int.zero_mul])
  have two : (bound + 2) * decibel = bound * decibel + 2 * decibel := Int.add_mul bound 2 decibel
  have halves : 2 * halfDecibel = decibel := by decide
  have unit : 0 < decibel := by decide
  rw [two]
  generalize bound * decibel = most at *
  have slow := (way (-gain) storable.neg).2 (by omega)
  have atMost : (if held then min change 0 else change) ≤ change := by split <;> omega
  have atLeast : -gain ≤ if held then min change 0 else change := by split <;> omega
  generalize (if held then min change 0 else change) = allowed at *
  have least : 0 ≤ next := (arrival 0 storable_zero).2 (by omega)
  rcases le_or_gt gain most with inside | above
  · have room : allowed ≤ most - gain ∨ halfDecibel ≤ most - gain := by
      by_cases near : (most - gain).natAbs ≤ gain.natAbs
      · have rise := (way (most - gain) (toBound near)).1 (by omega)
        exact .inl (by omega)
      · exact .inr (by omega)
    have arrived := (arrival most whole).1 (by omega)
    exact ⟨least, by omega, by omega⟩
  · have fall := (way (most - gain) (toBound (by omega))).1 (by omega)
    have lower := (arrival gain storable).1 (by omega)
    refine ⟨least, by omega, ?_⟩
    by_cases near : gain ≤ most + 2 * decibel
    · have arrived := (arrival most whole).1 (by omega)
      exact ⟨fun _ => near, fun _ => arrived⟩
    · have far := (arrival (gain - 2 * decibel) (toTwo (by omega))).2 (by omega)
      exact ⟨fun arrived => by omega, fun within => absurd within near⟩

/-- A whole number of decibels that is not larger than any that is used denotes so many. There are
few enough to compute them all. -/
theorem denotes_ofInt {number : Int} (least : 0 ≤ number) (most : number ≤ compressionLimit + 2) :
    Denotes (Float32.ofInt number) (number * decibel) := by
  have all : ∀ number ∈ List.range 93,
      worth (Float32.ofInt number).toModel.unpack = some (number * decibel) := by
    decide +kernel
  obtain ⟨number, rfl⟩ := Int.eq_ofNat_of_zero_le least
  simp only [compressionLimit] at most
  exact all number (List.mem_range.mpr (by omega))

/-- The gain is a number of decibels between zero and the largest one that can be configured. -/
def GainInRange (effect : GainControl) : Prop :=
  ∃ units, Denotes effect.gain units ∧ 0 ≤ units ∧ units ≤ compressionLimit * decibel

/-- The gain is at most the largest one that is configured. -/
def WithinBound (effect : GainControl) : Prop := effect.gain ≤ Float32.ofInt effect.compression

variable {effect : GainControl}

/-- What a measured level above that of speech calls for lies between zero and the largest gain,
because it is confined to that interval in the end. The level itself is only known to be a number.
-/
theorem denotes_desiredGain (bounded : effect.Bounded) (adaptive : effect.mode ≠ .fixedDigital)
    (loud : speechLevel < effect.level) :
    ∃ units, Denotes effect.desiredGain units ∧
      0 ≤ units ∧ units ≤ effect.compression * decibel := by
  obtain ⟨-, -, ⟨targetLeast, targetMost⟩, leastGain, mostGain⟩ := bounded
  simp only [targetLimit, compressionLimit] at targetMost mostGain
  have target : Denotes (-(Float32.ofInt effect.target)) (-(effect.target * decibel)) := by
    refine (denotes_ofInt targetLeast (by simp only [compressionLimit]; omega)).neg ?_
    simp only [decibel]
    omega
  have largest := denotes_ofInt leastGain (by simp only [compressionLimit]; omega)
  have wanted := denotes_confine denotes_zero largest (by simp only [decibel]; omega)
    (isNaN_sub target (isNaN_of_lt loud))
  cases mode : effect.mode with
  | fixedDigital => exact absurd mode adaptive
  | _ => simpa only [desiredGain, mode, if_pos loud] using wanted

/-- Other input calls for the gain at hand, which the largest gain does not confine. -/
theorem desiredGain_of_quiet (adaptive : effect.mode ≠ .fixedDigital)
    (quiet : ¬ speechLevel < effect.level) : effect.desiredGain = effect.gain := by
  cases mode : effect.mode with
  | fixedDigital => exact absurd mode adaptive
  | _ => simp only [desiredGain, mode, if_neg quiet]

/-- The gain of the adaptive modes moves toward what is called for. The steps are confined as whole
numbers are, since comparing scalars is exact. -/
theorem moves_nextGain (adaptive : effect.mode ≠ .fixedDigital)
    (denotes : Denotes effect.gain gain) (gainRange : 0 ≤ gain ∧ gain ≤ compressionLimit * decibel)
    (calls : Denotes effect.desiredGain desired)
    (desiredRange : 0 ≤ desired ∧ desired ≤ compressionLimit * decibel) :
    ∃ next, Denotes effect.nextGain next ∧ Moves gain desired effect.farEndIsActive next := by
  simp only [compressionLimit, decibel] at gainRange desiredRange
  obtain ⟨change, way, faithful⟩ := denotes_sub calls denotes (by omega)
  have rise : Denotes maxRise halfDecibel := by
    unfold Denotes
    decide +kernel
  have fall : Denotes (-maxFall) (-(2 * decibel)) := by
    unfold Denotes
    decide +kernel
  have allowed : Denotes
      (if effect.farEndIsActive then smaller (effect.desiredGain - effect.gain) 0.0
        else effect.desiredGain - effect.gain)
      (if effect.farEndIsActive then min change 0 else change) := by
    split
    · exact way.smaller denotes_zero
    · exact way
  obtain ⟨next, arrival, moved⟩ := denotes_add denotes (Denotes.confine fall rise allowed) (by
    simp only [halfDecibel, decibel]
    omega)
  refine ⟨next, ?_, change, faithful, moved⟩
  cases mode : effect.mode with
  | fixedDigital => exact absurd mode adaptive
  | _ => simpa only [nextGain, mode] using arrival

/-- The gain stays in range when it moves. It is at most the largest gain afterwards in the fixed
mode, when it was before, and when the input is loud and it was at most two decibels above, and in
no other case. -/
theorem nextGain_spec (bounded : effect.Bounded) (inRange : effect.GainInRange) :
    { effect with gain := effect.nextGain }.GainInRange ∧
      (effect.nextGain ≤ Float32.ofInt effect.compression ↔
        effect.mode = .fixedDigital ∨ effect.WithinBound ∨
          speechLevel < effect.level ∧ effect.gain ≤ Float32.ofInt (effect.compression + 2)) := by
  obtain ⟨gain, denotes, gainRange⟩ := inRange
  obtain ⟨least, most⟩ := bounded.compression
  have scaled : effect.compression * decibel ≤ compressionLimit * decibel := by
    simp only [decibel]
    omega
  have largest := denotes_ofInt least (Int.le_trans most (by decide))
  have above : Denotes (Float32.ofInt (effect.compression + 2))
      ((effect.compression + 2) * decibel) := denotes_ofInt (by omega) (by omega)
  by_cases fixed : effect.mode = .fixedDigital
  · have next : effect.nextGain = Float32.ofInt effect.compression := by
      simp only [nextGain, desiredGain, fixed]
    refine ⟨⟨_, next ▸ largest, by simp only [decibel]; omega, scaled⟩, ?_⟩
    simp only [next, fixed, true_or, iff_true]
    exact (le_iff largest largest).mpr (Int.le_refl _)
  simp only [fixed, false_or, WithinBound, le_iff denotes largest, le_iff denotes above]
  by_cases loud : speechLevel < effect.level
  · obtain ⟨desired, calls, desiredRange⟩ := denotes_desiredGain bounded fixed loud
    obtain ⟨next, arrived, moves⟩ := moves_nextGain fixed denotes gainRange calls (by omega)
    obtain ⟨nextLeast, nextMost, within⟩ :=
      moves.bounds denotes.storable gainRange ⟨least, most⟩ desiredRange
    refine ⟨⟨next, arrived, nextLeast, by omega⟩, ?_⟩
    rw [le_iff arrived largest, within]
    simp only [loud, true_and, decibel]
    omega
  · obtain ⟨next, arrived, moves⟩ := moves_nextGain fixed denotes gainRange
      (desiredGain_of_quiet fixed loud ▸ denotes) gainRange
    rw [moves.eq_of_desired denotes.storable] at arrived
    refine ⟨⟨gain, arrived, gainRange⟩, ?_⟩
    rw [le_iff arrived largest]
    simp only [loud, false_and, or_false]

end VoiceEngine.GainControl
