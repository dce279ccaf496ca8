import Mathlib.Algebra.Order.Ring.Abs
import Mathlib.Tactic.Linarith
import Mathlib.Tactic.LinearCombination
import Mathlib.Tactic.Positivity
import Mathlib.Tactic.Ring
import VoiceEngine.Effect.HighPass

/-!
# How faithful the split feedback of the high-pass filter is

The filter keeps an accumulator as a high word and a fraction. The fraction is always the right
one, and no sum of the filter leaves 32 bits. The high word, however, has only 16 bits and wraps:
it is right exactly for accumulators of 29 bits. So the stored words represent every accumulator of
a signal exactly when the recurrence of whole numbers never leaves 29 bits on that signal, and then
the filter computes that recurrence, however often the emitted samples were saturated.

Not every signal stays within 29 bits: a long negative excursion with a steep rise behind it does
not. To see that signals up to a peak do, the past of the filter is condensed to two numbers, what
it adds to the next accumulator and to the one after it. The poles are a pair of complex numbers,
so these two have an energy that every step without input multiplies by exactly the same factor
below one. What a sample and the rounding add in one step is bounded by the peak, and where a step
loses as much as it can gain, the energy stays.
-/

namespace VoiceEngine.HighPass

namespace Coefficients

/-- The coefficients are small enough that no sum of a filter leaves 32 bits. -/
structure Moderate (c : Coefficients) : Prop where
  b0 : |c.b0| ≤ 4096
  b1 : |c.b1| ≤ 8192
  b2 : |c.b2| ≤ 4096
  a1 : |c.a1| ≤ 8192
  a2 : |c.a2| ≤ 4096

/-- The coefficients of every band are moderate. -/
theorem moderate_coefficientsFor (bandHz : UInt32) : (coefficientsFor bandHz).Moderate := by
  unfold coefficientsFor
  split <;> constructor <;> decide

end Coefficients

namespace Filter

/-- A sum that fits does not wrap. -/
theorem plus_of_fits {left right : Int} (above : -2147483648 ≤ left + right)
    (below : left + right ≤ 2147483647) : plus left right = left + right :=
  Word.toInt_wrap32_of_fits above below

/-- A word times a factor is at most 32768 times as large as the factor. -/
theorem abs_word_mul_le (word : Int16) {factor bound : Int} (small : |factor| ≤ bound) :
    |word.toInt * factor| ≤ 32768 * bound := by
  have word_le : |word.toInt| ≤ 32768 := by
    have above := word.le_toInt
    have below := word.toInt_lt
    rw [abs_le]
    omega
  rw [abs_mul]
  exact mul_le_mul word_le small (abs_nonneg factor) (by decide)

/-- Whatever words a filter holds, no sum on the way to its accumulator wraps. -/
theorem accumulate_eq (filter : Filter) (sample : Sample)
    (moderate : filter.coefficients.Moderate) :
    filter.accumulate sample =
      2 * ((filter.fraction1.toInt * filter.coefficients.a1 +
          filter.fraction2.toInt * filter.coefficients.a2) / 32768 +
        filter.high1.toInt * filter.coefficients.a1 +
        filter.high2.toInt * filter.coefficients.a2) +
      sample.toInt * filter.coefficients.b0 + filter.input1.toInt * filter.coefficients.b1 +
      filter.input2.toInt * filter.coefficients.b2 := by
  have fraction1 := abs_le.mp (abs_word_mul_le filter.fraction1 moderate.a1)
  have fraction2 := abs_le.mp (abs_word_mul_le filter.fraction2 moderate.a2)
  have high1 := abs_le.mp (abs_word_mul_le filter.high1 moderate.a1)
  have high2 := abs_le.mp (abs_word_mul_le filter.high2 moderate.a2)
  have input0 := abs_le.mp (abs_word_mul_le sample moderate.b0)
  have input1 := abs_le.mp (abs_word_mul_le filter.input1 moderate.b1)
  have input2 := abs_le.mp (abs_word_mul_le filter.input2 moderate.b2)
  simp only [accumulate]
  generalize filter.fraction1.toInt * filter.coefficients.a1 = f1 at *
  generalize filter.fraction2.toInt * filter.coefficients.a2 = f2 at *
  generalize filter.high1.toInt * filter.coefficients.a1 = h1 at *
  generalize filter.high2.toInt * filter.coefficients.a2 = h2 at *
  generalize sample.toInt * filter.coefficients.b0 = i0 at *
  generalize filter.input1.toInt * filter.coefficients.b1 = i1 at *
  generalize filter.input2.toInt * filter.coefficients.b2 = i2 at *
  simp (disch := omega) only [plus_of_fits, Word.toInt_wrap32_of_fits]
  omega

/-- The fraction is right for every accumulator, also when the high word wraps: what the high word
loses is a multiple of all that the other wraps cut off. -/
theorem toInt_fractionWord (accumulator : Int) :
    (fractionWord accumulator).toInt = 4 * (accumulator % 8192) := by
  simp only [fractionWord, highWord, Word.toInt_wrap16, Word.toInt_wrap32, Int.bmod_def]
  omega

/-- Two words represent an accumulator: the upper one is its high word, not cut off, the lower one
is four times what the high word leaves, and together they are the accumulator. -/
structure Keeps (upper lower : Int16) (accumulator : Int) : Prop where
  high : upper.toInt = accumulator / 8192
  fraction : lower.toInt = 4 * (accumulator - 8192 * upper.toInt)
  range : 0 ≤ lower.toInt ∧ lower.toInt ≤ 32764
  whole : 32768 * upper.toInt + lower.toInt = 4 * accumulator

/-- The accumulators of 29 bits. -/
def Storable (accumulator : Int) : Prop := -268435456 ≤ accumulator ∧ accumulator < 268435456

instance (upper lower : Int16) (accumulator : Int) : Decidable (Keeps upper lower accumulator) :=
  decidable_of_iff
    (upper.toInt = accumulator / 8192 ∧ lower.toInt = 4 * (accumulator - 8192 * upper.toInt) ∧
      (0 ≤ lower.toInt ∧ lower.toInt ≤ 32764) ∧
      32768 * upper.toInt + lower.toInt = 4 * accumulator)
    ⟨fun ⟨high, fraction, range, whole⟩ => ⟨high, fraction, range, whole⟩,
      fun kept => ⟨kept.high, kept.fraction, kept.range, kept.whole⟩⟩

/-- The words that store an accumulator represent it exactly when it has 29 bits. -/
theorem keeps_iff_storable (accumulator : Int) :
    Keeps (highWord accumulator) (fractionWord accumulator) accumulator ↔
      Storable accumulator := by
  constructor
  · intro kept
    have exact := kept.high
    have above := (highWord accumulator).le_toInt
    have below := (highWord accumulator).toInt_lt
    constructor
    · omega
    · omega
  · rintro ⟨above, below⟩
    have high : (highWord accumulator).toInt = accumulator / 8192 :=
      Word.toInt_wrap16_of_fits (by omega) (by omega)
    have fraction := toInt_fractionWord accumulator
    constructor
    · exact high
    · omega
    · omega
    · omega

/-- After every sample of a signal the stored words represent the accumulator of that sample. -/
def Faithful (filter : Filter) : List Sample → Prop
  | [] => True
  | sample :: rest =>
    Keeps (filter.advance sample).high1 (filter.advance sample).fraction1
        (filter.accumulate sample) ∧
      (filter.advance sample).Faithful rest

instance decidableFaithful (filter : Filter) :
    (signal : List Sample) → Decidable (filter.Faithful signal)
  | [] => .isTrue trivial
  | sample :: rest =>
    have := decidableFaithful (filter.advance sample) rest
    inferInstanceAs (Decidable (Keeps _ _ _ ∧ _))

end Filter

/-- The last two inputs and the last two accumulators of a filter, as whole numbers. -/
structure Recurrence where
  input1 : Int := 0
  input2 : Int := 0
  output1 : Int := 0
  output2 : Int := 0

namespace Recurrence

/-- The accumulator for the next sample. -/
def accumulate (c : Coefficients) (state : Recurrence) (sample : Sample) : Int :=
  2 * ((c.a1 * state.output1 + c.a2 * state.output2) / 8192) + c.b0 * sample.toInt +
    c.b1 * state.input1 + c.b2 * state.input2

/-- The recurrence after one sample. -/
def advance (c : Coefficients) (state : Recurrence) (sample : Sample) : Recurrence :=
  { input1 := sample.toInt
    input2 := state.input1
    output1 := state.accumulate c sample
    output2 := state.output1 }

/-- The accumulators of a signal. -/
def run (c : Coefficients) (state : Recurrence) : List Sample → List Int
  | [] => []
  | sample :: rest => state.accumulate c sample :: (state.advance c sample).run c rest

end Recurrence

namespace Filter

/-- The words of a filter represent the state of the recurrence. -/
structure Represents (filter : Filter) (state : Recurrence) : Prop where
  input1 : filter.input1.toInt = state.input1
  input2 : filter.input2.toInt = state.input2
  output1 : Keeps filter.high1 filter.fraction1 state.output1
  output2 : Keeps filter.high2 filter.fraction2 state.output2

variable {filter : Filter} {state : Recurrence}

/-- A new filter represents the recurrence at rest. -/
theorem represents_rest (c : Coefficients) : Represents { coefficients := c } {} :=
  ⟨rfl, rfl, (by decide : Keeps 0 0 0), (by decide : Keeps 0 0 0)⟩

/-- From words that represent the last accumulators, the next one is that of the recurrence. -/
theorem Represents.accumulate (known : filter.Represents state)
    (moderate : filter.coefficients.Moderate) (sample : Sample) :
    filter.accumulate sample = state.accumulate filter.coefficients sample := by
  have join : filter.fraction1.toInt * filter.coefficients.a1 +
      filter.fraction2.toInt * filter.coefficients.a2 +
      32768 * (filter.high1.toInt * filter.coefficients.a1 +
        filter.high2.toInt * filter.coefficients.a2) =
      4 * (filter.coefficients.a1 * state.output1 + filter.coefficients.a2 * state.output2) := by
    linear_combination filter.coefficients.a1 * known.output1.whole +
      filter.coefficients.a2 * known.output2.whole
  rw [accumulate_eq filter sample moderate, known.input1, known.input2]
  simp only [Recurrence.accumulate, Int.mul_comm filter.coefficients.b0,
    Int.mul_comm filter.coefficients.b1, Int.mul_comm filter.coefficients.b2]
  omega

/-- An accumulator of 29 bits leaves words that represent the recurrence again. -/
theorem Represents.advance (known : filter.Represents state)
    (moderate : filter.coefficients.Moderate) (sample : Sample)
    (storable : Storable (state.accumulate filter.coefficients sample)) :
    (filter.advance sample).Represents (state.advance filter.coefficients sample) := by
  rw [← known.accumulate moderate] at storable
  have kept := (keeps_iff_storable _).mpr storable
  constructor
  · rfl
  · exact known.input1
  · simp only [Filter.advance, Recurrence.advance, ← known.accumulate moderate]
    exact kept
  · exact known.output1

/-- The stored words represent every accumulator of a signal exactly when the recurrence never
leaves 29 bits on it. Up to the first accumulator that does, filter and recurrence agree, so both
sides fail at the same sample. -/
theorem Represents.faithful_iff (known : filter.Represents state)
    (moderate : filter.coefficients.Moderate) (signal : List Sample) :
    filter.Faithful signal ↔
      ∀ accumulator ∈ state.run filter.coefficients signal, Storable accumulator := by
  induction signal generalizing filter state with
  | nil => simp [Faithful, Recurrence.run]
  | cons sample rest inductionHypothesis =>
    have kept : Keeps (filter.advance sample).high1 (filter.advance sample).fraction1
        (filter.accumulate sample) ↔ Storable (filter.accumulate sample) :=
      keeps_iff_storable (filter.accumulate sample)
    simp only [Faithful, Recurrence.run, List.forall_mem_cons]
    rw [kept, known.accumulate moderate]
    refine and_congr_right fun storable => ?_
    exact inductionHypothesis (known.advance moderate sample storable) moderate

/-- As long as the recurrence stays within 29 bits, the filter emits what it gives. -/
theorem Represents.run (known : filter.Represents state)
    (moderate : filter.coefficients.Moderate) (signal : List Sample)
    (storable : ∀ accumulator ∈ state.run filter.coefficients signal, Storable accumulator) :
    (filter.run signal).1 = (state.run filter.coefficients signal).map emit := by
  induction signal generalizing filter state with
  | nil => rfl
  | cons sample rest inductionHypothesis =>
    simp only [Recurrence.run, List.forall_mem_cons] at storable
    have next := known.advance moderate sample storable.1
    have later := inductionHypothesis next moderate storable.2
    simp only [Filter.run, Recurrence.run, List.map_cons, known.accumulate moderate, later]
    rfl

end Filter

namespace Recurrence

/-- What the past adds to the next accumulator, in units of `1 / 4096` and before rounding. -/
def near (c : Coefficients) (state : Recurrence) : Int :=
  c.a1 * state.output1 + c.a2 * state.output2 +
    4096 * (c.b1 * state.input1 + c.b2 * state.input2)

/-- What the past adds to the accumulator after the next one, in the same units. -/
def far (c : Coefficients) (state : Recurrence) : Int :=
  c.a2 * state.output1 + 4096 * (c.b2 * state.input1)

end Recurrence

namespace Coefficients

/-- The energy of what the past adds to the next accumulator and to the one after it. -/
def energy (c : Coefficients) (near far : Int) : Int :=
  -c.a2 * (near * near) + c.a1 * (near * far) + 4096 * (far * far)

/-- The poles are a pair of complex numbers, and a constant signal gives nothing. -/
structure Resonant (c : Coefficients) : Prop where
  poles : c.a1 * c.a1 + 16384 * c.a2 < 0
  zero1 : c.b1 = -2 * c.b0
  zero2 : c.b2 = c.b0

variable {c : Coefficients}

/-- The energy bounds what is added next. -/
theorem near_le_energy (c : Coefficients) (near far : Int) :
    (-16384 * c.a2 - c.a1 * c.a1) * (near * near) ≤ 16384 * c.energy near far := by
  have square := mul_self_nonneg (8192 * far + c.a1 * near)
  simp only [energy]
  linarith

/-- With complex poles no energy is negative. -/
theorem Resonant.energy_nonneg (resonant : c.Resonant) (near far : Int) :
    0 ≤ c.energy near far := by
  have bound := c.near_le_energy near far
  have spread : 0 ≤ -16384 * c.a2 - c.a1 * c.a1 := by
    have poles := resonant.poles
    linarith
  have part := mul_nonneg spread (mul_self_nonneg near)
  linarith

/-- The energy of a sum is bounded by the energies of its parts. The weight says how much of the
bound is laid on the second part. -/
theorem Resonant.energy_add_le (resonant : c.Resonant) (weight near far moreNear moreFar : Int) :
    weight * c.energy (near + moreNear) (far + moreFar) ≤
      (1 + weight) * c.energy near far + weight * (1 + weight) * c.energy moreNear moreFar := by
  have difference :=
    resonant.energy_nonneg (near - weight * moreNear) (far - weight * moreFar)
  have expanded : c.energy (near - weight * moreNear) (far - weight * moreFar) =
      (1 + weight) * c.energy near far + weight * (1 + weight) * c.energy moreNear moreFar -
        weight * c.energy (near + moreNear) (far + moreFar) := by
    simp only [energy]
    ring
  linarith

/-- Both numbers on a larger scale have the energy on the square of the scale. -/
theorem energy_scale (scale near far : Int) :
    c.energy (scale * near) (scale * far) = scale * scale * c.energy near far := by
  simp only [energy]
  ring

/-- A step without input multiplies the energy by the square of the modulus of the poles. -/
theorem energy_decay (near far : Int) :
    c.energy (c.a1 * near + 4096 * far) (c.a2 * near) = -4096 * c.a2 * c.energy near far := by
  simp only [energy]
  ring

/-- The energy that an input brings. -/
theorem energy_input (input : Int) :
    c.energy (input * (c.a1 - 8192)) (input * (c.a2 + 4096)) =
      4096 * ((4096 - c.a1 - c.a2) * (4096 - c.a1 - c.a2)) * (input * input) := by
  simp only [energy]
  ring

/-- The energy that rounding brings. -/
theorem energy_rounding (dropped : Int) :
    c.energy (dropped * c.a1) (dropped * c.a2) = 4096 * (c.a2 * c.a2) * (dropped * dropped) := by
  simp only [energy]
  ring

end Coefficients

/-- One step of the recurrence: the past, the sample and what rounding drops make the accumulator,
and the past of the next step decays from the past of this one and takes in the sample and what
rounding drops. -/
theorem Recurrence.exists_rounding {c : Coefficients} (state : Recurrence) (sample : Sample)
    (resonant : c.Resonant) :
    ∃ rounding, 0 ≤ rounding ∧ rounding ≤ 8191 ∧
      4096 * state.accumulate c sample =
        state.near c - rounding + 4096 * c.b0 * sample.toInt ∧
      4096 * (state.advance c sample).near c =
        c.a1 * state.near c + 4096 * state.far c +
          (4096 * c.b0 * sample.toInt * (c.a1 - 8192) + -rounding * c.a1) ∧
      4096 * (state.advance c sample).far c =
        c.a2 * state.near c +
          (4096 * c.b0 * sample.toInt * (c.a2 + 4096) + -rounding * c.a2) := by
  have whole := Int.mul_ediv_add_emod (c.a1 * state.output1 + c.a2 * state.output2) 8192
  have lower := Int.emod_nonneg (c.a1 * state.output1 + c.a2 * state.output2)
    (by decide : (8192 : Int) ≠ 0)
  have upper := Int.emod_lt_of_pos (c.a1 * state.output1 + c.a2 * state.output2)
    (by decide : (0 : Int) < 8192)
  have rounded : 4096 * state.accumulate c sample = state.near c -
      (c.a1 * state.output1 + c.a2 * state.output2) % 8192 + 4096 * c.b0 * sample.toInt := by
    simp only [accumulate, near]
    linear_combination whole
  refine ⟨_, lower, by omega, rounded, ?_, ?_⟩
  · simp only [near, far, advance] at rounded ⊢
    rw [resonant.zero1, resonant.zero2] at *
    linear_combination c.a1 * rounded
  · simp only [near, far, advance] at rounded ⊢
    rw [resonant.zero1, resonant.zero2] at *
    linear_combination c.a2 * rounded

namespace Coefficients

/-- A bound on the energy that a sample up to a peak and the rounding bring in one step, in units of
`1 / 1000`. Nearly all of it is laid on the sample. -/
def supply (c : Coefficients) (peak : Int) : Int :=
  1001 * (4096 * ((4096 - c.a1 - c.a2) * (4096 - c.a1 - c.a2)) *
    ((4096 * c.b0 * peak) * (4096 * c.b0 * peak))) +
  1001 * 1000 * (4096 * (c.a2 * c.a2) * (8191 * 8191))

/-- An energy that no signal up to a peak lifts the filter above, small enough that no accumulator
leaves 29 bits below it. -/
structure Ceiling (c : Coefficients) (peak : Int) where
  energy : Int
  /-- How much of the bound on one step is laid on its input. -/
  weight : Int
  /-- What the past adds to the next accumulator stays below it. -/
  reach : Int
  resonant : c.Resonant
  rises : 0 ≤ c.b0
  falls : c.a2 ≤ 0
  heavy : 0 < weight
  rest : 0 ≤ energy
  forward : 0 ≤ reach
  /-- At the ceiling a step loses what it can gain. -/
  kept : 1000 * ((1 + weight) * (-4096 * c.a2 * energy)) +
    weight * (1 + weight) * c.supply peak ≤ 1000 * (weight * (4096 * 4096 * energy))
  /-- Below the ceiling the past reaches no further. -/
  held : 16384 * energy < (-16384 * c.a2 - c.a1 * c.a1) * (reach * reach)
  /-- The reach of the past leaves room for a sample. -/
  room : reach + 8191 + 4096 * c.b0 * peak ≤ 4096 * 268435455

variable {c : Coefficients} {peak : Int}

/-- A sample up to the peak is scaled to at most the scaled peak. -/
theorem Ceiling.abs_input_le (ceiling : c.Ceiling peak) {sample : Int} (quiet : |sample| ≤ peak) :
    |4096 * c.b0 * sample| ≤ 4096 * c.b0 * peak := by
  have rises := ceiling.rises
  rw [abs_mul, abs_of_nonneg (by positivity : 0 ≤ 4096 * c.b0)]
  exact mul_le_mul_of_nonneg_left quiet (by positivity)

/-- A sample up to the peak and the rounding bring no more than is accounted for. -/
theorem Ceiling.energy_le_supply (ceiling : c.Ceiling peak) {sample rounding : Int}
    (quiet : |sample| ≤ peak) (low : 0 ≤ rounding) (high : rounding ≤ 8191) :
    1000 * c.energy (4096 * c.b0 * sample * (c.a1 - 8192) + -rounding * c.a1)
      (4096 * c.b0 * sample * (c.a2 + 4096) + -rounding * c.a2) ≤ c.supply peak := by
  have parts := ceiling.resonant.energy_add_le 1000 (4096 * c.b0 * sample * (c.a1 - 8192))
    (4096 * c.b0 * sample * (c.a2 + 4096)) (-rounding * c.a1) (-rounding * c.a2)
  rw [energy_input, energy_rounding] at parts
  have loud : (4096 * c.b0 * sample) * (4096 * c.b0 * sample) ≤
      (4096 * c.b0 * peak) * (4096 * c.b0 * peak) := by
    rw [← abs_mul_abs_self]
    exact mul_self_le_mul_self (abs_nonneg _) (ceiling.abs_input_le quiet)
  have dropped : -rounding * -rounding ≤ 8191 * 8191 := by
    rw [neg_mul_neg]
    exact mul_self_le_mul_self low high
  have loudPart := mul_le_mul_of_nonneg_left loud
    (mul_nonneg (by decide : (0 : Int) ≤ 4096) (mul_self_nonneg (4096 - c.a1 - c.a2)))
  have droppedPart := mul_le_mul_of_nonneg_left dropped
    (mul_nonneg (by decide : (0 : Int) ≤ 4096) (mul_self_nonneg c.a2))
  simp only [supply]
  linarith

/-- Below the ceiling the accumulator for a sample up to the peak has 29 bits. -/
theorem Ceiling.storable (ceiling : c.Ceiling peak) {state : Recurrence} {sample : Sample}
    (below : c.energy (state.near c) (state.far c) ≤ ceiling.energy)
    (quiet : |sample.toInt| ≤ peak) : Filter.Storable (state.accumulate c sample) := by
  obtain ⟨rounding, low, high, rounded, -, -⟩ := state.exists_rounding sample ceiling.resonant
  have spread : 0 < -16384 * c.a2 - c.a1 * c.a1 := by
    have poles := ceiling.resonant.poles
    linarith
  have inside : state.near c * state.near c < ceiling.reach * ceiling.reach := by
    have bound := c.near_le_energy (state.near c) (state.far c)
    have held := ceiling.held
    exact lt_of_mul_lt_mul_left (by linarith) spread.le
  have reached : |state.near c| < ceiling.reach := by
    rw [← abs_mul_abs_self] at inside
    exact lt_of_mul_self_lt_mul_self₀ ceiling.forward inside
  have loud := abs_le.mp (ceiling.abs_input_le quiet)
  have room := ceiling.room
  rw [abs_lt] at reached
  constructor
  · linarith
  · linarith

/-- A sample up to the peak does not lift the energy above the ceiling. -/
theorem Ceiling.energy_advance_le (ceiling : c.Ceiling peak) {state : Recurrence}
    {sample : Sample} (below : c.energy (state.near c) (state.far c) ≤ ceiling.energy)
    (quiet : |sample.toInt| ≤ peak) :
    c.energy ((state.advance c sample).near c) ((state.advance c sample).far c) ≤
      ceiling.energy := by
  obtain ⟨rounding, low, high, -, near, far⟩ := state.exists_rounding sample ceiling.resonant
  have split := ceiling.resonant.energy_add_le ceiling.weight
    (c.a1 * state.near c + 4096 * state.far c) (c.a2 * state.near c)
    (4096 * c.b0 * sample.toInt * (c.a1 - 8192) + -rounding * c.a1)
    (4096 * c.b0 * sample.toInt * (c.a2 + 4096) + -rounding * c.a2)
  rw [← near, ← far, energy_decay, energy_scale] at split
  have kept := ceiling.kept
  have heavy := ceiling.heavy
  have decay : 0 ≤ (1 + ceiling.weight) * (-4096 * c.a2) :=
    mul_nonneg (by positivity) (by linarith [ceiling.falls])
  have decayed := mul_le_mul_of_nonneg_left below decay
  have added := mul_le_mul_of_nonneg_left (ceiling.energy_le_supply quiet low high)
    (by positivity : 0 ≤ ceiling.weight * (1 + ceiling.weight))
  have weighed : ceiling.weight *
      c.energy ((state.advance c sample).near c) ((state.advance c sample).far c) ≤
        ceiling.weight * ceiling.energy := by
    linarith
  exact le_of_mul_le_mul_left weighed heavy

/-- From below the ceiling the recurrence stays within 29 bits on every signal up to the peak. -/
theorem Ceiling.storable_run (ceiling : c.Ceiling peak) {state : Recurrence}
    (below : c.energy (state.near c) (state.far c) ≤ ceiling.energy) (signal : List Sample)
    (quiet : ∀ sample ∈ signal, |sample.toInt| ≤ peak) :
    ∀ accumulator ∈ state.run c signal, Filter.Storable accumulator := by
  induction signal generalizing state with
  | nil => simp [Recurrence.run]
  | cons sample rest inductionHypothesis =>
    have now := quiet sample List.mem_cons_self
    have later := inductionHypothesis (ceiling.energy_advance_le below now)
      fun other member => quiet other (List.mem_cons_of_mem sample member)
    simp only [Recurrence.run, List.forall_mem_cons]
    exact ⟨ceiling.storable below now, later⟩

/-- At rest nothing is added, so the energy is below every ceiling. -/
theorem Ceiling.energy_rest_le (ceiling : c.Ceiling peak) :
    c.energy (Recurrence.near c {}) (Recurrence.far c {}) ≤ ceiling.energy := by
  simpa [Coefficients.energy, Recurrence.near, Recurrence.far] using ceiling.rest

/-- A ceiling for the coefficients of the narrow band. -/
def narrowCeiling : narrowCoefficients.Ceiling 20000 where
  energy := 6000000000000000000000000
  weight := 21
  reach := 681000000000
  resonant := ⟨by decide, rfl, rfl⟩
  rises := by decide
  falls := by decide
  heavy := by decide
  rest := by decide
  forward := by decide
  kept := by decide
  held := by decide
  room := by decide

/-- A ceiling for the coefficients of the wide band. -/
def wideCeiling : wideCoefficients.Ceiling 20000 where
  energy := 2600000000000000000000000
  weight := 43
  reach := 737000000000
  resonant := ⟨by decide, rfl, rfl⟩
  rises := by decide
  falls := by decide
  heavy := by decide
  rest := by decide
  forward := by decide
  kept := by decide
  held := by decide
  room := by decide

/-- From rest the recurrence of every band stays within 29 bits on signals up to 20000. -/
theorem storable_run_of_quiet (bandHz : UInt32) (signal : List Sample)
    (quiet : ∀ sample ∈ signal, |sample.toInt| ≤ 20000) :
    ∀ accumulator ∈ Recurrence.run (coefficientsFor bandHz) {} signal,
      Filter.Storable accumulator := by
  unfold coefficientsFor
  split
  · exact narrowCeiling.storable_run narrowCeiling.energy_rest_le signal quiet
  · exact wideCeiling.storable_run wideCeiling.energy_rest_le signal quiet

end Coefficients

/-- When the split feedback of a new filter is faithful.

The fraction is right for every accumulator. After every sample of a signal the stored words
represent the accumulator of that sample exactly when the recurrence of whole numbers stays within
29 bits on the signal. Then the filter continues from the true outputs throughout: what it emits
are the accumulators of the recurrence, rounded and saturated. All this holds of every signal with
no sample beyond 20000. -/
theorem faithful_iff_storable (bandHz : UInt32) (signal : List Sample) :
    (∀ accumulator, (Filter.fractionWord accumulator).toInt = 4 * (accumulator % 8192)) ∧
      (Filter.Faithful { coefficients := coefficientsFor bandHz } signal ↔
        ∀ accumulator ∈ Recurrence.run (coefficientsFor bandHz) {} signal,
          Filter.Storable accumulator) ∧
      (Filter.Faithful { coefficients := coefficientsFor bandHz } signal →
        (Filter.run { coefficients := coefficientsFor bandHz } signal).1 =
          (Recurrence.run (coefficientsFor bandHz) {} signal).map Filter.emit) ∧
      ((∀ sample ∈ signal, |sample.toInt| ≤ 20000) →
        Filter.Faithful { coefficients := coefficientsFor bandHz } signal) := by
  have known := Filter.represents_rest (coefficientsFor bandHz)
  have moderate := Coefficients.moderate_coefficientsFor bandHz
  have exactly := known.faithful_iff moderate signal
  refine ⟨Filter.toInt_fractionWord, exactly, ?_, ?_⟩
  · intro faithful
    exact known.run moderate signal (exactly.mp faithful)
  · intro quiet
    exact exactly.mpr (Coefficients.storable_run_of_quiet bandHz signal quiet)

/-- Within the peak the feedback is faithful, so the steepest change that the peak allows comes out
as the recurrence gives it. -/
theorem faithful_iff_storable_quiet :
    (∀ sample ∈ ([-20000, -20000, 20000, 20000] : List Sample), |sample.toInt| ≤ 20000) ∧
      Filter.Faithful { coefficients := coefficientsFor 16000 } [-20000, -20000, 20000, 20000] ∧
      (Filter.run { coefficients := coefficientsFor 16000 } [-20000, -20000, 20000, 20000]).1 =
        [-19590, -18681, 21399, 20471] := by
  have quiet : ∀ sample ∈ ([-20000, -20000, 20000, 20000] : List Sample),
      |sample.toInt| ≤ 20000 := by simp [abs_le]
  obtain ⟨-, -, emitted, faithful⟩ :=
    faithful_iff_storable 16000 [-20000, -20000, 20000, 20000]
  refine ⟨quiet, faithful quiet, ?_⟩
  rw [emitted (faithful quiet)]
  decide +kernel

/-- The most negative samples for a while, and then two of the largest. -/
def steepRise (length : Nat) : List Sample := List.replicate length (-32768) ++ [32767, 32767]

/-- Not every signal is within reach of the stored words. On a steep rise the high word wraps for
both bands, and the sample behind it comes out at the wrong end of the range: the recurrence of
whole numbers gives the largest sample there. -/
theorem not_faithful_steepRise :
    ¬ Filter.Faithful { coefficients := coefficientsFor 8000 } (steepRise 21) ∧
      ¬ Filter.Faithful { coefficients := coefficientsFor 16000 } (steepRise 30) ∧
      (Filter.run { coefficients := coefficientsFor 8000 } (steepRise 21)).1.getLast? =
        some (-32768) ∧
      ((Recurrence.run (coefficientsFor 8000) {} (steepRise 21)).map Filter.emit).getLast? =
        some 32767 := by
  decide +kernel

end VoiceEngine.HighPass
