import Mathlib.Algebra.BigOperators.Ring.List
import Mathlib.Data.List.Forall2
import VoiceEngine.Proofs.Headroom
import VoiceEngine.Proofs.Streaming

/-!
# Alias cancellation

Merging sends the sum of the two bands through the cascade that the even samples have passed, and
their difference through the cascade that the odd samples have passed. Without rounding the sum is
the branch of the odd samples and the difference the branch of the even samples, so the odd samples
come out after both cascades, the even samples after both in the other order, and neither is found
in the other.

The bands are rounded, so each branch enters its second cascade with an error of up to one sample.
The cascade is fed for ever with such errors, and rounds its own answers down besides. Two exact
runs of a section on inputs that stay close differ like one run on the difference of the inputs: the
spread of the difference is kept within its limit by the same step that keeps the spread itself. So
the errors do not add up, and three sections make at most thirteen samples of one.
-/

namespace VoiceEngine

namespace Section

/-- Two words lie within a limit of each other. -/
def Close (limit : Nat) (first second : Int32) : Prop := |first.toInt - second.toInt| ≤ limit

/-- The last inputs of two sections lie within a limit of each other, and the spreads within the
limit of a spread. -/
structure Near (coefficient limit : Nat) (state other : Section) : Prop where
  input : Close limit state.lastInput other.lastInput
  spread : |65536 * (state.lastOutput.toInt - other.lastOutput.toInt) -
      coefficient * (state.lastInput.toInt - other.lastInput.toInt)| ≤
    (65536 + coefficient) * limit + slack

variable {coefficient limit : Nat} {state other : Section}

/-- Every section is near to itself. -/
theorem Near.refl (coefficient limit : Nat) (state : Section) :
    Near coefficient limit state state := by
  constructor
  · simp [Close]
  · simp only [sub_self, mul_zero, abs_zero]
    positivity

/-- The last outputs of near sections lie within reach of each other. -/
theorem Near.output (near : Near coefficient limit state other) :
    Close (reach coefficient limit) state.lastOutput other.lastOutput :=
  abs_le_reach near.input near.spread

/-- Exact answers to inputs within the limit of each other leave near sections near. The two answers
are rounded apart, so what rounding adds to the difference is the difference of what they drop. -/
theorem Near.step (near : Near coefficient limit state other) (steady : coefficient ≤ steepest)
    {input changed : Int32} (close : Close limit input changed)
    (exact : state.ExactStep coefficient input)
    (otherExact : other.ExactStep coefficient changed) :
    Near coefficient limit (state.advance coefficient input)
      (other.advance coefficient changed) := by
  refine ⟨close, ?_⟩
  dsimp only [advance]
  rw [exact.answer, otherExact.answer]
  have whole :=
    Int.mul_ediv_add_emod (coefficient * (input.toInt - state.lastOutput.toInt)) 65536
  have otherWhole :=
    Int.mul_ediv_add_emod (coefficient * (changed.toInt - other.lastOutput.toInt)) 65536
  have small : |coefficient * (input.toInt - state.lastOutput.toInt) % 65536 -
      coefficient * (changed.toInt - other.lastOutput.toInt) % 65536| ≤ 65536 :=
    abs_le.mpr ⟨by omega, by omega⟩
  refine spread_damped steady near.input near.spread small ?_
  linear_combination 65536 * whole - 65536 * otherWhole

/-- Two exact runs from near sections, on inputs within the limit of each other, give answers within
reach of each other. -/
theorem Near.run (near : Near coefficient limit state other) (steady : coefficient ≤ steepest)
    {inputs changed : List Int32} (close : List.Forall₂ (Close limit) inputs changed)
    (exact : state.RunsExactly coefficient inputs)
    (otherExact : other.RunsExactly coefficient changed) :
    List.Forall₂ (Close (reach coefficient limit)) (Section.run coefficient state inputs).1
      (Section.run coefficient other changed).1 := by
  induction close generalizing state other with
  | nil => exact .nil
  | cons now later inductionHypothesis =>
    have next := near.step steady now exact.1 otherExact.1
    exact .cons next.output (inductionHypothesis next exact.2 otherExact.2)

end Section

namespace Cascade

/-- Two exact runs of a cascade on inputs within a limit of each other give answers within reach of
each other. -/
theorem close_run {coefficients : CascadeCoefficients} {limit : Nat} {state : Cascade}
    {inputs changed : List Int32} (steadyFirst : coefficients.first ≤ Section.steepest)
    (steadySecond : coefficients.second ≤ Section.steepest)
    (steadyThird : coefficients.third ≤ Section.steepest)
    (close : List.Forall₂ (Section.Close limit) inputs changed)
    (exact : state.RunsExactly coefficients inputs)
    (otherExact : state.RunsExactly coefficients changed) :
    List.Forall₂ (Section.Close (reach coefficients limit)) (state.run coefficients inputs).1
      (state.run coefficients changed).1 := by
  have once := (Section.Near.refl coefficients.first limit state.first).run steadyFirst close
    exact.first otherExact.first
  have twice := (Section.Near.refl coefficients.second _ state.second).run steadySecond once
    exact.second otherExact.second
  exact (Section.Near.refl coefficients.third _ state.third).run steadyThird twice
    exact.third otherExact.third

end Cascade

namespace SplitBands

/-- The odd samples of a signal after the first cascade. -/
def oddBranch (signal : List Sample) : List Int32 :=
  (Cascade.run firstCoefficients {} ((odds signal).map (raise ·.toInt))).1

/-- The even samples of a signal after the second cascade. -/
def evenBranch (signal : List Sample) : List Int32 :=
  (Cascade.run secondCoefficients {} ((evens signal).map (raise ·.toInt))).1

/-- The odd samples of a signal after both cascades, the second cascade last. -/
def oddTwice (signal : List Sample) : List Int32 :=
  (Cascade.run secondCoefficients {} (oddBranch signal)).1

/-- The even samples of a signal after both cascades, the first cascade last. -/
def evenTwice (signal : List Sample) : List Int32 :=
  (Cascade.run firstCoefficients {} (evenBranch signal)).1

/-- The low band of a signal. -/
def lowBand (signal : List Sample) : List Sample :=
  List.zipWith lowSample (oddBranch signal) (evenBranch signal)

/-- The high band of a signal. -/
def highBand (signal : List Sample) : List Sample :=
  List.zipWith highSample (oddBranch signal) (evenBranch signal)

/-- The samples of both bands that two branches give are not clipped. -/
def UnclippedPair (odd even : Int32) : Prop :=
  (-32768 ≤ (odd.toInt + even.toInt + 1024) / 2048 ∧
    (odd.toInt + even.toInt + 1024) / 2048 ≤ 32767) ∧
  (-32768 ≤ (odd.toInt - even.toInt + 1024) / 2048 ∧
    (odd.toInt - even.toInt + 1024) / 2048 ≤ 32767)

instance (odd even : Int32) : Decidable (UnclippedPair odd even) := by
  unfold UnclippedPair
  infer_instance

/-- No sample of the low or the high band of a signal is clipped. -/
def Unclipped (signal : List Sample) : Prop :=
  ∀ pair ∈ (oddBranch signal).zip (evenBranch signal), UnclippedPair pair.1 pair.2

/-- Whether every pair of a list is unclipped can be decided by going through the list. -/
def decideUnclipped (pairs : List (Int32 × Int32)) :
    Decidable (∀ pair ∈ pairs, UnclippedPair pair.1 pair.2) :=
  List.decidableBAll _ pairs

instance (signal : List Sample) : Decidable (Unclipped signal) :=
  decideUnclipped ((oddBranch signal).zip (evenBranch signal))

/-- A bound on branches whose bands are not clipped. -/
def branchLimit : Nat := 67109888

/-- Branches whose bands are not clipped come back, up to one sample, as the sum and the difference
of the bands, and they are bounded. -/
theorem UnclippedPair.restored {odd even : Int32} (unclipped : UnclippedPair odd even) :
    Section.Close 1024
        (raise ((lowSample odd even).toInt + (highSample odd even).toInt)) odd ∧
      Section.Close 1024
        (raise ((lowSample odd even).toInt - (highSample odd even).toInt)) even ∧
      |odd.toInt| ≤ branchLimit ∧ |even.toInt| ≤ branchLimit := by
  obtain ⟨⟨lowAbove, lowBelow⟩, highAbove, highBelow⟩ := unclipped
  have low : (lowSample odd even).toInt = (odd.toInt + even.toInt + 1024) / 2048 := by
    rw [lowSample, Word.toInt_saturate16, Word.clip_of_bounds lowAbove lowBelow]
  have high : (highSample odd even).toInt = (odd.toInt - even.toInt + 1024) / 2048 := by
    rw [highSample, Word.toInt_saturate16, Word.clip_of_bounds highAbove highBelow]
  obtain ⟨⟨sum, -⟩, difference, -⟩ := raise_pair (lowSample odd even) (highSample odd even)
  simp only [Section.Close, abs_le]
  rw [sum, difference, low, high, branchLimit]
  omega

variable {signal : List Sample}

/-- A signal of even length has branches of the same length. -/
theorem length_branches (length : Nat) (even : signal.length = 2 * length) :
    (oddBranch signal).length = length ∧ (evenBranch signal).length = length := by
  have parts := length_evens_odds length signal even
  simp [oddBranch, evenBranch, parts]

/-- Branches whose bands are not clipped come back, up to one sample, and they are bounded. -/
theorem restored_of_unclipped {odd even : List Int32}
    (unclipped : List.Forall₂ UnclippedPair odd even) :
    List.Forall₂ (Section.Close 1024)
        (sums (List.zipWith lowSample odd even) (List.zipWith highSample odd even)) odd ∧
      List.Forall₂ (Section.Close 1024)
        (differences (List.zipWith lowSample odd even) (List.zipWith highSample odd even)) even ∧
      (∀ branch ∈ odd, |branch.toInt| ≤ branchLimit) ∧
      ∀ branch ∈ even, |branch.toInt| ≤ branchLimit := by
  induction unclipped with
  | nil => exact ⟨.nil, .nil, by simp, by simp⟩
  | cons now later inductionHypothesis =>
    obtain ⟨sum, difference, oddBound, evenBound⟩ := now.restored
    obtain ⟨laterSums, laterDifferences, laterOdd, laterEven⟩ := inductionHypothesis
    exact ⟨.cons sum laterSums, .cons difference laterDifferences,
      List.forall_mem_cons.mpr ⟨oddBound, laterOdd⟩,
      List.forall_mem_cons.mpr ⟨evenBound, laterEven⟩⟩

/-- The branches of a signal of even length pair up, and where no band is clipped, no pair is. -/
theorem Unclipped.pairs (unclipped : Unclipped signal) (even : 2 ∣ signal.length) :
    List.Forall₂ UnclippedPair (oddBranch signal) (evenBranch signal) := by
  obtain ⟨length, even⟩ := even
  obtain ⟨oddLength, evenLength⟩ := length_branches length even
  exact List.forall₂_iff_zip.mpr
    ⟨oddLength.trans evenLength.symm, fun {odd even} member => unclipped (odd, even) member⟩

/-- A sample lies within sixteen of a branch, rounded and saturated. -/
def Renders (sample : Sample) (branch : Int32) : Prop :=
  |sample.toInt - (Word.saturate16 ((branch.toInt + 512) / 1024)).toInt| ≤ 16

/-- What a branch is rounded to lies within sixteen of every branch that it is close to. -/
theorem renders_fullSample {branch reference : Int32} {limit : Nat} (small : limit ≤ 15360)
    (fits : Word.Fits32 (branch.toInt + 512)) (close : Section.Close limit branch reference) :
    Renders (fullSample branch) reference := by
  have kept : (fullSample branch).toInt =
      Word.clip (-32768) 32767 ((branch.toInt + 512) / 1024) := by
    rw [fullSample, Word.toInt_saturate16, Word.toInt_saturate32,
      Word.clip_of_bounds fits.1 fits.2]
  obtain ⟨above, below⟩ := abs_le.mp close
  have smallInt : (limit : Int) ≤ 15360 := by exact_mod_cast small
  rw [Renders, kept, Word.toInt_saturate16, abs_le]
  simp only [Word.clip]
  omega

/-- A cascade that is fed a branch, up to one sample, renders the branch after that cascade. -/
theorem renders_run {coefficients : CascadeCoefficients} {inputs branch : List Int32}
    (roomy : Cascade.Roomy coefficients inputLimit)
    (small : Cascade.reach coefficients 1024 ≤ 15360)
    (close : List.Forall₂ (Section.Close 1024) inputs branch)
    (exact : Cascade.RunsExactly coefficients {} inputs)
    (otherExact : Cascade.RunsExactly coefficients {} branch)
    (fits : ∀ output ∈ (Cascade.run coefficients {} inputs).1,
      Word.Fits32 (output.toInt + 512)) :
    List.Forall₂ Renders ((Cascade.run coefficients {} inputs).1.map fullSample)
      (Cascade.run coefficients {} branch).1 := by
  have reached := Cascade.close_run roomy.steadyFirst roomy.steadySecond roomy.steadyThird close
    exact otherExact
  rw [List.forall₂_map_left_iff]
  refine List.forall₂_iff_zip.mpr ⟨reached.length_eq, fun {output reference} member => ?_⟩
  exact renders_fullSample small (fits output (List.of_mem_zip member).1)
    (List.forall₂_zip reached member)

/-- The entries at odd positions of a shuffled list are those of the second list, the others those
of the first. -/
theorem odds_evens_alternate {α : Type} (even odd : List α) (same : even.length = odd.length) :
    odds (alternate even odd) = odd ∧ evens (alternate even odd) = even := by
  induction even generalizing odd with
  | nil =>
    have empty : odd = [] := List.eq_nil_of_length_eq_zero same.symm
    subst empty
    exact ⟨rfl, rfl⟩
  | cons first rest inductionHypothesis =>
    cases odd with
    | nil => simp at same
    | cons second others =>
      obtain ⟨odd, even⟩ := inductionHypothesis others (by simpa using same)
      simp [alternate, odds, evens, odd, even]

/-- From rest, blocks of even length are split to the bands of the whole signal. -/
theorem splitBlocks?_of_rest (blocks : List (List Sample))
    (admitted : ∀ block ∈ blocks, 2 ∣ block.length ∧ block.length ≤ 480) :
    2 ∣ blocks.flatten.length ∧ ∃ memory, splitBlocks? {} blocks =
      some (lowBand blocks.flatten, highBand blocks.flatten, memory) := by
  obtain ⟨even, bands⟩ := splitBlocks?_eq_split {} blocks admitted
  exact ⟨even, (split {} blocks.flatten).2.2, bands⟩

/-- From rest, bands that are cut into pairs of blocks of equal length are merged as a whole. -/
theorem mergeBlocks?_of_rest (blocks : List (List Sample × List Sample))
    (admitted : ∀ block ∈ blocks, block.1.length = block.2.length ∧ block.1.length ≤ 240) :
    mergeBlocks? {} blocks =
      some (merge {} (blocks.flatMap Prod.fst) (blocks.flatMap Prod.snd)) :=
  mergeBlocks?_eq_merge {} blocks admitted

/-- Both cascades, one after the other, are exact on the odd and on the even samples of a signal
whose bands are not clipped. -/
theorem Unclipped.exact (unclipped : Unclipped signal) (even : 2 ∣ signal.length) :
    SplitsExactly {} signal ∧ Cascade.RunsExactly secondCoefficients {} (oddBranch signal) ∧
      Cascade.RunsExactly firstCoefficients {} (evenBranch signal) := by
  obtain ⟨-, -, odd, even⟩ := restored_of_unclipped (unclipped.pairs even)
  refine ⟨?_, ?_, ?_⟩
  · exact (splitsWithin_rest.split signal).1
  · exact ((Cascade.within_rest _ branchLimit).run (by constructor <;> decide) _ odd).1
  · exact ((Cascade.within_rest _ branchLimit).run (by constructor <;> decide) _ even).1

/-- What two bands are merged to from rest. -/
theorem merge_rest (low high : List Sample) :
    (merge {} low high).1 =
      alternate ((Cascade.run firstCoefficients {} (differences low high)).1.map fullSample)
        ((Cascade.run secondCoefficients {} (sums low high)).1.map fullSample) := rfl

/-- Merging the bands of a signal renders the odd samples after both cascades at odd positions, and
the even samples after both cascades at even positions. -/
theorem Unclipped.merge (unclipped : Unclipped signal) (halves : 2 ∣ signal.length) :
    (merge {} (lowBand signal) (highBand signal)).1.length = signal.length ∧
      List.Forall₂ Renders (odds (merge {} (lowBand signal) (highBand signal)).1)
        (oddTwice signal) ∧
      List.Forall₂ Renders (evens (merge {} (lowBand signal) (highBand signal)).1)
        (evenTwice signal) := by
  obtain ⟨sumsClose, differencesClose, -, -⟩ := restored_of_unclipped (unclipped.pairs halves)
  obtain ⟨-, oddExact, evenExact⟩ := unclipped.exact halves
  obtain ⟨merged, -⟩ := mergesWithin_rest.merge (lowBand signal) (highBand signal)
  have odd : List.Forall₂ Renders
      ((Cascade.run secondCoefficients {} (sums (lowBand signal) (highBand signal))).1.map
        fullSample) (oddTwice signal) :=
    renders_run roomy_second (by decide) sumsClose merged.odd oddExact
      fun output member => merged.rounded output (List.mem_append_left _ member)
  have even : List.Forall₂ Renders
      ((Cascade.run firstCoefficients {} (differences (lowBand signal) (highBand signal))).1.map
        fullSample) (evenTwice signal) :=
    renders_run roomy_first (by decide) differencesClose merged.even evenExact
      fun output member => merged.rounded output (List.mem_append_right _ member)
  obtain ⟨length, whole⟩ := halves
  obtain ⟨oddLength, evenLength⟩ := length_branches length whole
  have oddOut := odd.length_eq.trans (by simp [oddTwice, oddLength] : _ = length)
  have evenOut := even.length_eq.trans (by simp [evenTwice, evenLength] : _ = length)
  have same := evenOut.trans oddOut.symm
  obtain ⟨oddPart, evenPart⟩ := odds_evens_alternate _ _ same
  rw [merge_rest, oddPart, evenPart, length_alternate _ _ same, evenOut, whole]
  exact ⟨rfl, odd, even⟩

/-- The two halves of a signal do not leak into each other, for ever.

Let a signal of any length be split from rest in any blocks, such that no sample of either band is
clipped. The bands are then those of the whole signal, and in whatever blocks they are merged from
rest, the odd samples that come out lie within sixteen of the odd samples that went in after both
cascades, and the even samples within sixteen of the even samples after both cascades. Every cascade
of these references is exact. -/
theorem renders_of_unclipped (blocks : List (List Sample))
    (admitted : ∀ block ∈ blocks, 2 ∣ block.length ∧ block.length ≤ 480)
    (unclipped : Unclipped blocks.flatten) :
    (SplitsExactly {} blocks.flatten ∧
      Cascade.RunsExactly secondCoefficients {} (oddBranch blocks.flatten) ∧
      Cascade.RunsExactly firstCoefficients {} (evenBranch blocks.flatten)) ∧
    (∃ memory, splitBlocks? {} blocks =
      some (lowBand blocks.flatten, highBand blocks.flatten, memory)) ∧
    ∀ bands : List (List Sample × List Sample),
      (∀ block ∈ bands, block.1.length = block.2.length ∧ block.1.length ≤ 240) →
      bands.flatMap Prod.fst = lowBand blocks.flatten →
      bands.flatMap Prod.snd = highBand blocks.flatten →
      ∃ full memory, mergeBlocks? {} bands = some (full, memory) ∧
        full.length = blocks.flatten.length ∧
        List.Forall₂ Renders (odds full) (oddTwice blocks.flatten) ∧
        List.Forall₂ Renders (evens full) (evenTwice blocks.flatten) := by
  obtain ⟨even, bands⟩ := splitBlocks?_of_rest blocks admitted
  refine ⟨unclipped.exact even, bands, ?_⟩
  intro bands paired low high
  exact ⟨_, _, by rw [mergeBlocks?_of_rest bands paired, low, high], unclipped.merge even⟩

/-- Six samples that are split in two blocks and merged in one. -/
theorem renders_of_unclipped_six :
    Unclipped [30000, -30000, 20000, 25000, -7, 1] ∧
    (splitBlocks? {} [[30000, -30000], [20000, 25000, -7, 1]]).isSome = true ∧
    ∃ full memory, mergeBlocks? {}
        [(lowBand [30000, -30000, 20000, 25000, -7, 1],
          highBand [30000, -30000, 20000, 25000, -7, 1])] = some (full, memory) ∧
      List.Forall₂ Renders (odds full) (oddTwice [30000, -30000, 20000, 25000, -7, 1]) ∧
      List.Forall₂ Renders (evens full) (evenTwice [30000, -30000, 20000, 25000, -7, 1]) := by
  have unclipped : Unclipped [30000, -30000, 20000, 25000, -7, 1] := by decide +kernel
  obtain ⟨-, ⟨memory, split⟩, merges⟩ := renders_of_unclipped
    [[30000, -30000], [20000, 25000, -7, 1]] (by decide) unclipped
  obtain ⟨full, final, merged, -, odd, even⟩ := merges
    [(lowBand [30000, -30000, 20000, 25000, -7, 1],
      highBand [30000, -30000, 20000, 25000, -7, 1])]
    (by simp [lowBand, highBand, oddBranch, evenBranch, odds, evens]) (by simp) (by simp)
  exact ⟨unclipped, by rw [split]; rfl, full, final, merged, odd, even⟩

end SplitBands

end VoiceEngine
