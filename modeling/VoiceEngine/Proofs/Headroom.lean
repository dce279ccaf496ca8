import Mathlib.Algebra.Order.Ring.Abs
import Mathlib.Tactic.Linarith
import Mathlib.Tactic.LinearCombination
import VoiceEngine.SplitBands

/-!
# Headroom of the splitting filter

The sections of a cascade work in 32-bit words, where a difference can saturate and a sum can
wrap. From rest neither ever happens. The feedback of a section is close to one, so its output
cannot be bounded by its feedback alone. What stays bounded is the spread: how far the last output
lies from the last input weighted with the coefficient. Every step takes the spread to the last
input, again weighted, less the spread times the coefficient, less what rounding drops; so the
spread stays within `1 + a` times the limit of the inputs, and the output within `1 + 2 * a` times,
for ever. Carried through three sections, this leaves every value of both directions inside its
word, and the cascades compute the exact recurrence of whole numbers.
-/

namespace VoiceEngine

namespace Word

/-- The whole numbers that a 32-bit word holds. -/
def Fits32 (value : Int) : Prop := -2147483648 ≤ value ∧ value ≤ 2147483647

/-- What is no larger than the largest word fits. -/
theorem fits32_of_abs_le {value : Int} {limit : Int} (bound : |value| ≤ limit)
    (room : limit ≤ 2147483647) : Fits32 value := by
  obtain ⟨above, below⟩ := abs_le.mp bound
  exact ⟨by omega, by omega⟩

/-- A difference that fits does not saturate. -/
theorem toInt_subtract32_of_fits {left right : Int32} (fits : Fits32 (left.toInt - right.toInt)) :
    (subtract32 left right).toInt = left.toInt - right.toInt := by
  rw [subtract32, toInt_saturate32, clip_of_bounds fits.1 fits.2]

end Word

namespace Section

/-- No step of the answer to an input leaves its word: the difference does not saturate, the
correction is not cut off and the sum does not wrap, so the answer is the one of the recurrence
of whole numbers. -/
structure ExactStep (coefficient : Nat) (state : Section) (input : Int32) : Prop where
  difference : Word.Fits32 (input.toInt - state.lastOutput.toInt)
  correction : Word.Fits32 (coefficient * (input.toInt - state.lastOutput.toInt) / 65536)
  sum : Word.Fits32 (state.lastInput.toInt +
    coefficient * (input.toInt - state.lastOutput.toInt) / 65536)
  answer : (state.answer coefficient input).toInt = state.lastInput.toInt +
    coefficient * (input.toInt - state.lastOutput.toInt) / 65536

/-- Every answer of a section to a block is exact. -/
def RunsExactly (coefficient : Nat) (state : Section) : List Int32 → Prop
  | [] => True
  | input :: rest =>
    state.ExactStep coefficient input ∧
      (state.advance coefficient input).RunsExactly coefficient rest

/-- What rounding adds to the spread in the long run, in units of `1 / 65536`. -/
def slack : Nat := 4194304

/-- The largest coefficient for which the slack is enough. -/
def steepest : Nat := 64512

/-- How far the outputs of a section reach when its inputs stay within a limit. -/
def reach (coefficient limit : Nat) : Nat := ((65536 + 2 * coefficient) * limit + slack) / 65536

/-- The last input of a section is within a limit, and the spread within its own. -/
structure Within (coefficient limit : Nat) (state : Section) : Prop where
  input : |state.lastInput.toInt| ≤ limit
  spread : |65536 * state.lastOutput.toInt - coefficient * state.lastInput.toInt| ≤
    (65536 + coefficient) * limit + slack

variable {coefficient limit : Nat} {state : Section}

/-- A section at rest is within every limit. -/
theorem within_rest (coefficient limit : Nat) : Within coefficient limit {} := by
  constructor
  · simp
  · simp
    positivity

/-- What lies within the limit of the spread of an input within the limit is within reach. -/
theorem abs_le_reach {lastInput lastOutput : Int} (inputBound : |lastInput| ≤ limit)
    (spreadBound : |65536 * lastOutput - coefficient * lastInput| ≤
      (65536 + coefficient) * limit + slack) :
    |lastOutput| ≤ reach coefficient limit := by
  obtain ⟨inputAbove, inputBelow⟩ := abs_le.mp inputBound
  obtain ⟨spreadAbove, spreadBelow⟩ := abs_le.mp spreadBound
  have weightedBelow : coefficient * lastInput ≤ (coefficient * limit : Int) :=
    mul_le_mul_of_nonneg_left inputBelow (Int.natCast_nonneg coefficient)
  have weightedAbove : -(coefficient * limit : Int) ≤ coefficient * lastInput := by
    rw [← mul_neg]
    exact mul_le_mul_of_nonneg_left inputAbove (Int.natCast_nonneg coefficient)
  have total : (reach coefficient limit : Int) =
      ((65536 + 2 * coefficient) * limit + slack) / 65536 := by
    simp [reach]
  rw [total, abs_le]
  constructor
  · have scaled : -((65536 + 2 * coefficient : Int) * limit + slack) ≤ 65536 * lastOutput := by
      linarith
    omega
  · have scaled : 65536 * lastOutput ≤ (65536 + 2 * coefficient : Int) * limit + slack := by
      linarith
    omega

/-- A step that takes the spread from `w` to `(1 - a * a) * x - a * w - r`, where `r` is what
rounding adds, keeps it within its limit. -/
theorem spread_damped {coefficient limit : Nat} {input spread next rounding : Int}
    (steady : coefficient ≤ steepest) (inputBound : |input| ≤ limit)
    (spreadBound : |spread| ≤ (65536 + coefficient) * limit + slack)
    (roundingBound : |rounding| ≤ 65536)
    (step : 65536 * next = (65536 * 65536 - coefficient * coefficient) * input -
      coefficient * spread - 65536 * rounding) :
    |next| ≤ (65536 + coefficient) * limit + slack := by
  have gentle : (coefficient : Int) ≤ 64512 := by exact_mod_cast steady
  have damping : (0 : Int) ≤ 65536 * 65536 - coefficient * coefficient := by nlinarith
  have direct : |(65536 * 65536 - coefficient * coefficient) * input| ≤
      (65536 * 65536 - coefficient * coefficient) * limit := by
    rw [abs_mul, abs_of_nonneg damping]
    exact mul_le_mul_of_nonneg_left inputBound damping
  have feedback : |coefficient * spread| ≤
      coefficient * ((65536 + coefficient) * limit + slack) := by
    rw [abs_mul, Nat.abs_cast]
    exact mul_le_mul_of_nonneg_left spreadBound (Int.natCast_nonneg coefficient)
  -- The slack pays for what one step drops and for the feedback of what earlier steps dropped.
  have paid : 65536 * 65536 ≤ (65536 - coefficient : Int) * slack := by
    simp only [slack]
    omega
  obtain ⟨directAbove, directBelow⟩ := abs_le.mp direct
  obtain ⟨feedbackAbove, feedbackBelow⟩ := abs_le.mp feedback
  obtain ⟨roundingAbove, roundingBelow⟩ := abs_le.mp roundingBound
  rw [abs_le]
  constructor
  · linarith
  · linarith

/-- One step of the recurrence keeps the spread within its limit. -/
theorem spread_step {coefficient limit : Nat} {lastInput lastOutput : Int} (input : Int)
    (steady : coefficient ≤ steepest) (inputBound : |lastInput| ≤ limit)
    (spreadBound : |65536 * lastOutput - coefficient * lastInput| ≤
      (65536 + coefficient) * limit + slack) :
    |65536 * (lastInput + coefficient * (input - lastOutput) / 65536) - coefficient * input| ≤
      (65536 + coefficient) * limit + slack := by
  have whole := Int.mul_ediv_add_emod (coefficient * (input - lastOutput)) 65536
  have dropped := Int.emod_nonneg (coefficient * (input - lastOutput))
    (by decide : (65536 : Int) ≠ 0)
  have droppedLess := Int.emod_lt_of_pos (coefficient * (input - lastOutput))
    (by decide : (0 : Int) < 65536)
  have small : |coefficient * (input - lastOutput) % 65536| ≤ 65536 :=
    abs_le.mpr ⟨by omega, by omega⟩
  refine spread_damped steady inputBound spreadBound small ?_
  linear_combination 65536 * whole

/-- Weighting a difference with a coefficient below one does not make it larger. -/
theorem abs_correction_le (small : coefficient ≤ 65536) (difference : Int) :
    |coefficient * difference / 65536| ≤ |difference| := by
  have gentle : (coefficient : Int) ≤ 65536 := by exact_mod_cast small
  have positive := Int.natCast_nonneg coefficient
  rcases le_total 0 difference with upward | downward
  · have low : 0 ≤ coefficient * difference := mul_nonneg positive upward
    have high : coefficient * difference ≤ 65536 * difference :=
      mul_le_mul_of_nonneg_right gentle upward
    rw [abs_of_nonneg upward, abs_le]
    omega
  · have high : coefficient * difference ≤ 0 := mul_nonpos_of_nonneg_of_nonpos positive downward
    have low : 65536 * difference ≤ coefficient * difference :=
      mul_le_mul_of_nonpos_right gentle downward
    rw [abs_of_nonpos downward, abs_le]
    omega

/-- A step whose values fit is exact. -/
theorem ExactStep.of_fits {input : Int32}
    (difference : Word.Fits32 (input.toInt - state.lastOutput.toInt))
    (correction : Word.Fits32 (coefficient * (input.toInt - state.lastOutput.toInt) / 65536))
    (sum : Word.Fits32 (state.lastInput.toInt +
      coefficient * (input.toInt - state.lastOutput.toInt) / 65536)) :
    state.ExactStep coefficient input := by
  refine ⟨difference, correction, sum, ?_⟩
  simp only [Section.answer]
  rw [Word.toInt_subtract32_of_fits difference,
    Word.toInt_wrap32_of_fits correction.1 correction.2, Word.toInt_wrap32_of_fits sum.1 sum.2]

/-- A section within a limit answers an input within that limit exactly, and stays within it, when
the limit and the reach together fit into a word. -/
theorem Within.step (within : state.Within coefficient limit) (steady : coefficient ≤ steepest)
    (room : limit + reach coefficient limit ≤ 2147483647) {input : Int32}
    (small : |input.toInt| ≤ limit) :
    state.ExactStep coefficient input ∧
      (state.advance coefficient input).Within coefficient limit := by
  have roomy : (limit + reach coefficient limit : Int) ≤ 2147483647 := by exact_mod_cast room
  have gentle : coefficient ≤ 65536 := steady.trans (by decide)
  have reached : |state.lastOutput.toInt| ≤ reach coefficient limit :=
    abs_le_reach within.input within.spread
  have apart : |input.toInt - state.lastOutput.toInt| ≤ limit + reach coefficient limit :=
    (abs_sub _ _).trans (add_le_add small reached)
  have spread := spread_step input.toInt steady within.input within.spread
  have next := abs_le_reach small spread
  have exact : state.ExactStep coefficient input :=
    .of_fits (Word.fits32_of_abs_le apart roomy)
      (Word.fits32_of_abs_le ((abs_correction_le gentle _).trans apart) roomy)
      (Word.fits32_of_abs_le next (by omega))
  refine ⟨exact, small, ?_⟩
  dsimp only [advance]
  rw [exact.answer]
  exact spread

/-- A section within a limit answers every block of inputs within that limit exactly. Its answers
are within its reach, and it stays within the limit. -/
theorem Within.run (within : state.Within coefficient limit) (steady : coefficient ≤ steepest)
    (room : limit + reach coefficient limit ≤ 2147483647) (inputs : List Int32)
    (small : ∀ input ∈ inputs, |input.toInt| ≤ limit) :
    state.RunsExactly coefficient inputs ∧
      (∀ output ∈ (Section.run coefficient state inputs).1,
        |output.toInt| ≤ reach coefficient limit) ∧
      (Section.run coefficient state inputs).2.Within coefficient limit := by
  induction inputs generalizing state with
  | nil => exact ⟨trivial, fun _ member => absurd member List.not_mem_nil, within⟩
  | cons input rest inductionHypothesis =>
    obtain ⟨exact, next⟩ := within.step steady room (small input List.mem_cons_self)
    obtain ⟨exactLater, reached, final⟩ := inductionHypothesis next
      fun later member => small later (List.mem_cons_of_mem input member)
    refine ⟨⟨exact, exactLater⟩, ?_, final⟩
    intro output member
    rcases List.mem_cons.mp member with rfl | member
    · exact abs_le_reach next.input next.spread
    · exact reached output member

end Section

namespace Cascade

/-- Every answer of each of the three sections to a block is exact. -/
structure RunsExactly (coefficients : CascadeCoefficients) (state : Cascade)
    (inputs : List Int32) : Prop where
  first : state.first.RunsExactly coefficients.first inputs
  second : state.second.RunsExactly coefficients.second
    (Section.run coefficients.first state.first inputs).1
  third : state.third.RunsExactly coefficients.third
    (Section.run coefficients.second state.second
      (Section.run coefficients.first state.first inputs).1).1

/-- How far the outputs of the first section reach. -/
def reachOnce (coefficients : CascadeCoefficients) (limit : Nat) : Nat :=
  Section.reach coefficients.first limit

/-- How far the outputs of the second section reach. -/
def reachTwice (coefficients : CascadeCoefficients) (limit : Nat) : Nat :=
  Section.reach coefficients.second (reachOnce coefficients limit)

/-- How far the outputs of a cascade reach. -/
def reach (coefficients : CascadeCoefficients) (limit : Nat) : Nat :=
  Section.reach coefficients.third (reachTwice coefficients limit)

/-- The coefficients leave room in a word for inputs within a limit. -/
structure Roomy (coefficients : CascadeCoefficients) (limit : Nat) : Prop where
  steadyFirst : coefficients.first ≤ Section.steepest
  steadySecond : coefficients.second ≤ Section.steepest
  steadyThird : coefficients.third ≤ Section.steepest
  roomFirst : limit + reachOnce coefficients limit ≤ 2147483647
  roomSecond : reachOnce coefficients limit + reachTwice coefficients limit ≤ 2147483647
  roomThird : reachTwice coefficients limit + reach coefficients limit ≤ 2147483647

/-- Every section is within the limit of the outputs before it. -/
structure Within (coefficients : CascadeCoefficients) (limit : Nat) (state : Cascade) : Prop where
  first : state.first.Within coefficients.first limit
  second : state.second.Within coefficients.second (reachOnce coefficients limit)
  third : state.third.Within coefficients.third (reachTwice coefficients limit)

variable {coefficients : CascadeCoefficients} {limit : Nat} {state : Cascade}

/-- A cascade at rest is within every limit. -/
theorem within_rest (coefficients : CascadeCoefficients) (limit : Nat) :
    Within coefficients limit {} :=
  ⟨Section.within_rest _ _, Section.within_rest _ _, Section.within_rest _ _⟩

/-- A cascade within a limit that leaves room answers every block of inputs within that limit
exactly, and stays within the limit. -/
theorem Within.run (within : state.Within coefficients limit) (roomy : Roomy coefficients limit)
    (inputs : List Int32) (small : ∀ input ∈ inputs, |input.toInt| ≤ limit) :
    state.RunsExactly coefficients inputs ∧
      (∀ output ∈ (Cascade.run coefficients state inputs).1,
        |output.toInt| ≤ reach coefficients limit) ∧
      (Cascade.run coefficients state inputs).2.Within coefficients limit := by
  obtain ⟨exactFirst, once, first⟩ :=
    within.first.run roomy.steadyFirst roomy.roomFirst inputs small
  obtain ⟨exactSecond, twice, second⟩ :=
    within.second.run roomy.steadySecond roomy.roomSecond _ once
  obtain ⟨exactThird, outputs, third⟩ :=
    within.third.run roomy.steadyThird roomy.roomThird _ twice
  exact ⟨⟨exactFirst, exactSecond, exactThird⟩, outputs, ⟨first, second, third⟩⟩

end Cascade

namespace SplitBands

/-- The limit of what enters a cascade: twice the largest sample, on the scale of the cascades. -/
def inputLimit : Nat := 67108864

/-- The first coefficients leave room. -/
theorem roomy_first : Cascade.Roomy firstCoefficients inputLimit := by
  constructor <;> decide

/-- The second coefficients leave room. -/
theorem roomy_second : Cascade.Roomy secondCoefficients inputLimit := by
  constructor <;> decide

/-- A sum or a difference of two samples is raised exactly and within the limit. -/
theorem raise_exact {value : Int} (above : -65536 ≤ value) (below : value ≤ 65536) :
    (raise value).toInt = value * 1024 ∧ |(raise value).toInt| ≤ inputLimit := by
  have exact : (raise value).toInt = value * 1024 :=
    Word.toInt_wrap32_of_fits (by omega) (by omega)
  refine ⟨exact, ?_⟩
  rw [exact, abs_le]
  simp only [inputLimit]
  omega

/-- A sample is raised exactly and within the limit. -/
theorem raise_sample (sample : Sample) :
    (raise sample.toInt).toInt = sample.toInt * 1024 ∧
      |(raise sample.toInt).toInt| ≤ inputLimit := by
  have above := sample.le_toInt
  have below := sample.toInt_lt
  exact raise_exact (by omega) (by omega)

/-- The sum and the difference of two samples are raised exactly and within the limit. -/
theorem raise_pair (low high : Sample) :
    ((raise (low.toInt + high.toInt)).toInt = (low.toInt + high.toInt) * 1024 ∧
      |(raise (low.toInt + high.toInt)).toInt| ≤ inputLimit) ∧
    (raise (low.toInt - high.toInt)).toInt = (low.toInt - high.toInt) * 1024 ∧
      |(raise (low.toInt - high.toInt)).toInt| ≤ inputLimit := by
  have lowAbove := low.le_toInt
  have lowBelow := low.toInt_lt
  have highAbove := high.le_toInt
  have highBelow := high.toInt_lt
  exact ⟨raise_exact (by omega) (by omega), raise_exact (by omega) (by omega)⟩

/-- Splitting a block is exact: its samples are raised exactly, and both branches run exactly. -/
structure SplitsExactly (memory : Memory) (full : List Sample) : Prop where
  raised : ∀ sample ∈ full, (raise sample.toInt).toInt = sample.toInt * 1024
  odd : memory.odd.RunsExactly firstCoefficients ((odds full).map (raise ·.toInt))
  even : memory.even.RunsExactly secondCoefficients ((evens full).map (raise ·.toInt))

/-- What enters the branch of the odd samples when two bands are merged. -/
def sums (low high : List Sample) : List Int32 :=
  List.zipWith (fun l h => raise (l.toInt + h.toInt)) low high

/-- What enters the branch of the even samples when two bands are merged. -/
def differences (low high : List Sample) : List Int32 :=
  List.zipWith (fun l h => raise (l.toInt - h.toInt)) low high

/-- Raised samples are within the limit. -/
theorem abs_raised_le (samples : List Sample) :
    ∀ input ∈ samples.map (raise ·.toInt), |input.toInt| ≤ inputLimit := by
  intro input member
  obtain ⟨sample, -, rfl⟩ := List.mem_map.mp member
  exact (raise_sample sample).2

/-- Sums and differences of samples are within the limit. -/
theorem abs_sums_differences_le (low high : List Sample) :
    (∀ input ∈ sums low high, |input.toInt| ≤ inputLimit) ∧
      ∀ input ∈ differences low high, |input.toInt| ≤ inputLimit := by
  simp only [sums, differences, ← List.map_uncurry_zip_eq_zipWith, List.forall_mem_map]
  exact ⟨fun pair _ => (raise_pair pair.1 pair.2).1.2, fun pair _ => (raise_pair pair.1 pair.2).2.2⟩

/-- Merging two bands is exact: sums and differences are raised exactly, both branches run exactly,
and rounding their outputs does not saturate. -/
structure MergesExactly (memory : Memory) (low high : List Sample) : Prop where
  raised : ∀ pair ∈ low.zip high,
    (raise (pair.1.toInt + pair.2.toInt)).toInt = (pair.1.toInt + pair.2.toInt) * 1024 ∧
      (raise (pair.1.toInt - pair.2.toInt)).toInt = (pair.1.toInt - pair.2.toInt) * 1024
  odd : memory.odd.RunsExactly secondCoefficients (sums low high)
  even : memory.even.RunsExactly firstCoefficients (differences low high)
  rounded : ∀ branch ∈ (memory.odd.run secondCoefficients (sums low high)).1 ++
      (memory.even.run firstCoefficients (differences low high)).1,
    Word.Fits32 (branch.toInt + 512)

/-- A memory with which every block is split exactly. -/
structure SplitsWithin (memory : Memory) : Prop where
  odd : memory.odd.Within firstCoefficients inputLimit
  even : memory.even.Within secondCoefficients inputLimit

/-- A memory with which every two bands are merged exactly. -/
structure MergesWithin (memory : Memory) : Prop where
  odd : memory.odd.Within secondCoefficients inputLimit
  even : memory.even.Within firstCoefficients inputLimit

/-- Within the limit a block is split exactly, and the memory stays within the limit. -/
theorem SplitsWithin.split {memory : Memory} (within : SplitsWithin memory) (full : List Sample) :
    SplitsExactly memory full ∧ SplitsWithin (split memory full).2.2 := by
  obtain ⟨oddExact, -, odd⟩ := within.odd.run roomy_first _ (abs_raised_le (odds full))
  obtain ⟨evenExact, -, even⟩ := within.even.run roomy_second _ (abs_raised_le (evens full))
  exact ⟨⟨fun sample _ => (raise_sample sample).1, oddExact, evenExact⟩, ⟨odd, even⟩⟩

/-- Within the limit two bands are merged exactly, and the memory stays within the limit. -/
theorem MergesWithin.merge {memory : Memory} (within : MergesWithin memory)
    (low high : List Sample) :
    MergesExactly memory low high ∧ MergesWithin (merge memory low high).2 := by
  obtain ⟨smallSums, smallDifferences⟩ := abs_sums_differences_le low high
  obtain ⟨oddExact, oddReach, odd⟩ := within.odd.run roomy_second (sums low high) smallSums
  obtain ⟨evenExact, evenReach, even⟩ :=
    within.even.run roomy_first (differences low high) smallDifferences
  refine ⟨⟨?_, oddExact, evenExact, ?_⟩, ⟨odd, even⟩⟩
  · intro pair _
    exact ⟨(raise_pair pair.1 pair.2).1.1, (raise_pair pair.1 pair.2).2.1⟩
  · intro branch member
    have reached : |branch.toInt| ≤ 2147483135 := by
      rcases List.mem_append.mp member with fromOdd | fromEven
      · exact (oddReach branch fromOdd).trans (by decide)
      · exact (evenReach branch fromEven).trans (by decide)
    obtain ⟨above, below⟩ := abs_le.mp reached
    exact ⟨by omega, by omega⟩

/-- The memory after blocks were split one after another, with nothing before them. -/
def memoryAfterSplits (blocks : List (List Sample)) : Memory :=
  blocks.foldl (fun memory block => (split memory block).2.2) {}

/-- The memory after pairs of bands were merged one after another, with nothing before them. -/
def memoryAfterMerges (blocks : List (List Sample × List Sample)) : Memory :=
  blocks.foldl (fun memory (low, high) => (merge memory low high).2) {}

/-- At rest every block is split exactly. -/
theorem splitsWithin_rest : SplitsWithin {} := ⟨Cascade.within_rest _ _, Cascade.within_rest _ _⟩

/-- At rest every two bands are merged exactly. -/
theorem mergesWithin_rest : MergesWithin {} := ⟨Cascade.within_rest _ _, Cascade.within_rest _ _⟩

/-- From rest every block is split with a memory within the limit. -/
theorem splitsWithin_memoryAfterSplits (blocks : List (List Sample)) :
    SplitsWithin (memoryAfterSplits blocks) :=
  List.foldlRecOn blocks _ splitsWithin_rest fun _ within block _ => (within.split block).2

/-- From rest every two bands are merged with a memory within the limit. -/
theorem mergesWithin_memoryAfterMerges (blocks : List (List Sample × List Sample)) :
    MergesWithin (memoryAfterMerges blocks) :=
  List.foldlRecOn blocks _ mergesWithin_rest
    fun _ within block _ => (within.merge block.1 block.2).2

/-- From rest the splitting filter never overflows. Whatever blocks were split before, the next one
is split without a difference that saturates, a correction that is cut off or a sum that wraps in
any of the six sections; and whatever bands were merged before, the same holds for the next two
bands, whose branches are also rounded without saturating. So every value is the one that the
recurrence gives in whole numbers. -/
theorem exact_from_rest :
    (∀ (earlier : List (List Sample)) (block : List Sample),
      SplitsExactly (memoryAfterSplits earlier) block) ∧
    ∀ (earlier : List (List Sample × List Sample)) (low high : List Sample),
      MergesExactly (memoryAfterMerges earlier) low high :=
  ⟨fun earlier block => ((splitsWithin_memoryAfterSplits earlier).split block).1,
    fun earlier low high => ((mergesWithin_memoryAfterMerges earlier).merge low high).1⟩

end SplitBands

end VoiceEngine
