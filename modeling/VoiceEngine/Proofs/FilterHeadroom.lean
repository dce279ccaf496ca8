import VoiceEngine.Proofs.Headroom
import VoiceEngine.Proofs.SplitFeedback

/-!
# Headroom of the high-pass filter

A step of the high-pass filter multiplies, adds and shifts in 32-bit words until it has its
accumulator, and adds a last constant to round it. For a filter with the coefficients of a band none
of these results leaves its word, whatever six words the filter holds and whatever sample arrives:
the products are at most 2 to the power 28, and there are few enough of them.

To say so of every result on the way, and not only of the last one, the step is evaluated a second
time with checks: the checked step gives up at the first result that does not fit. It never does,
and then both are the same.
-/

namespace VoiceEngine

namespace Word

instance (value : Int) : Decidable (Fits32 value) :=
  inferInstanceAs (Decidable (-2147483648 ≤ value ∧ value ≤ 2147483647))

/-- A result for a 32-bit word, given up when the word does not hold it. -/
def fit32? (value : Int) : Option Int := if Fits32 value then some value else none

/-- A result that fits is kept. -/
theorem fit32?_of_fits {value : Int} (above : -2147483648 ≤ value) (below : value ≤ 2147483647) :
    fit32? value = some value := if_pos ⟨above, below⟩

end Word

namespace HighPass.Filter

/-- The accumulator for the next sample, with every product, sum and shift in its order, and given
up at the first that leaves 32 bits. -/
def accumulate? (filter : Filter) (sample : Sample) : Option Int := do
  let c := filter.coefficients
  let fraction1 ← Word.fit32? (filter.fraction1.toInt * c.a1)
  let fraction2 ← Word.fit32? (filter.fraction2.toInt * c.a2)
  let fractions ← Word.fit32? (fraction1 + fraction2)
  let high1 ← Word.fit32? (filter.high1.toInt * c.a1)
  let upper ← Word.fit32? (fractions / 32768 + high1)
  let high2 ← Word.fit32? (filter.high2.toInt * c.a2)
  let feedback ← Word.fit32? (upper + high2)
  let doubled ← Word.fit32? (feedback * 2)
  let newest ← Word.fit32? (sample.toInt * c.b0)
  let fed ← Word.fit32? (doubled + newest)
  let input1 ← Word.fit32? (filter.input1.toInt * c.b1)
  let fedBefore ← Word.fit32? (fed + input1)
  let input2 ← Word.fit32? (filter.input2.toInt * c.b2)
  Word.fit32? (fedBefore + input2)

/-- The filtered block and the filter after it, given up at the first result that leaves 32 bits.
The rounded accumulator is saturated once, to a sample. -/
def run? (filter : Filter) : List Sample → Option (List Sample × Filter)
  | [] => some ([], filter)
  | sample :: rest => do
    let accumulator ← filter.accumulate? sample
    let rounded ← Word.fit32? (accumulator + 2048)
    let (filtered, final) ← run? (filter.advance sample) rest
    return (Word.saturate16 (rounded / 4096) :: filtered, final)

variable {filter : Filter}

/-- With moderate coefficients no check fails, and the accumulator leaves room for rounding. -/
theorem accumulate?_spec (moderate : filter.coefficients.Moderate) (sample : Sample) :
    filter.accumulate? sample = some (filter.accumulate sample) ∧
      Word.Fits32 (filter.accumulate sample + 2048) := by
  have fraction1 := abs_le.mp (abs_word_mul_le filter.fraction1 moderate.a1)
  have fraction2 := abs_le.mp (abs_word_mul_le filter.fraction2 moderate.a2)
  have high1 := abs_le.mp (abs_word_mul_le filter.high1 moderate.a1)
  have high2 := abs_le.mp (abs_word_mul_le filter.high2 moderate.a2)
  have input0 := abs_le.mp (abs_word_mul_le sample moderate.b0)
  have input1 := abs_le.mp (abs_word_mul_le filter.input1 moderate.b1)
  have input2 := abs_le.mp (abs_word_mul_le filter.input2 moderate.b2)
  rw [accumulate_eq filter sample moderate]
  simp only [accumulate?]
  -- Behind the bounds of the products all that is left is linear.
  generalize filter.fraction1.toInt * filter.coefficients.a1 = f1 at *
  generalize filter.fraction2.toInt * filter.coefficients.a2 = f2 at *
  generalize filter.high1.toInt * filter.coefficients.a1 = h1 at *
  generalize filter.high2.toInt * filter.coefficients.a2 = h2 at *
  generalize sample.toInt * filter.coefficients.b0 = i0 at *
  generalize filter.input1.toInt * filter.coefficients.b1 = i1 at *
  generalize filter.input2.toInt * filter.coefficients.b2 = i2 at *
  constructor
  · simp (disch := omega) only [Word.fit32?_of_fits, Option.bind_eq_bind, Option.bind_some]
    congr 1
    omega
  · constructor
    · omega
    · omega

/-- An accumulator that leaves room for rounding is emitted as the nearest sample. -/
theorem emit_of_fits {accumulator : Int} (fits : Word.Fits32 (accumulator + 2048)) :
    emit accumulator = Word.saturate16 ((accumulator + 2048) / 4096) := by
  have rounded := Word.clip_of_bounds fits.1 fits.2
  have once : Word.clip (-134217728) 134217727 (accumulator + 2048) / 4096 =
      Word.clip (-32768) 32767 ((accumulator + 2048) / 4096) := by
    simp only [Word.clip]
    omega
  rw [emit, Word.toInt_saturate32, rounded, once]
  rfl

/-- A filter with moderate coefficients runs through every block without a check that fails.
Induct along the block: the coefficients stay, and nothing is asked of the words. -/
theorem run?_eq_run (moderate : filter.coefficients.Moderate) (block : List Sample) :
    filter.run? block = some (filter.run block) := by
  induction block generalizing filter with
  | nil => rfl
  | cons sample rest inductionHypothesis =>
    obtain ⟨checked, fits⟩ := accumulate?_spec moderate sample
    have later : (filter.advance sample).run? rest = some ((filter.advance sample).run rest) :=
      inductionHypothesis moderate
    have roundedFits := Word.fit32?_of_fits fits.1 fits.2
    simp only [run?, run, checked, roundedFits, later, Option.bind_eq_bind, Option.bind_some,
      emit_of_fits fits]
    rfl

/-- No step of the high-pass filter overflows. Whatever six words a filter with the coefficients of
either band holds and whatever sample arrives, every product, sum and shift up to the accumulator
fits, so the accumulator is the exact one; the constant that rounds it does not saturate, and what
is emitted is the rounded accumulator, saturated to a sample. So the filter never overflows on any
block. -/
theorem no_step_overflows (filter : Filter) (sample : Sample)
    (band : filter.coefficients = narrowCoefficients ∨ filter.coefficients = wideCoefficients) :
    let c := filter.coefficients
    let exact := 2 * ((filter.fraction1.toInt * c.a1 + filter.fraction2.toInt * c.a2) / 32768 +
        filter.high1.toInt * c.a1 + filter.high2.toInt * c.a2) +
      sample.toInt * c.b0 + filter.input1.toInt * c.b1 + filter.input2.toInt * c.b2
    filter.accumulate? sample = some exact ∧ filter.accumulate sample = exact ∧
      Word.Fits32 (exact + 2048) ∧
      (emit (filter.accumulate sample)).toInt =
        Word.clip (-32768) 32767 ((exact + 2048) / 4096) ∧
      ∀ block, filter.run? block = some (filter.run block) := by
  intro c exact
  have moderate : filter.coefficients.Moderate := by
    rcases band with narrow | wide
    · rw [narrow]
      exact Coefficients.moderate_coefficientsFor 8000
    · rw [wide]
      exact Coefficients.moderate_coefficientsFor 16000
  have exactly : filter.accumulate sample = exact := accumulate_eq filter sample moderate
  obtain ⟨checked, fits⟩ := accumulate?_spec moderate sample
  rw [exactly] at checked fits
  refine ⟨checked, exactly, fits, ?_, run?_eq_run moderate⟩
  rw [exactly, emit_of_fits fits, Word.toInt_saturate16]

/-- A filter for the wide band whose words and next sample all pull the accumulator up as far as
they can. -/
def furthestUp : Filter :=
  { input1 := -32768, input2 := 32767, high1 := 32767, fraction1 := 32767, high2 := -32768,
    fraction2 := -32768, coefficients := wideCoefficients }

/-- Its accumulator is far beyond the largest sample, and still inside its word. -/
theorem no_step_overflows_furthestUp :
    furthestUp.coefficients = wideCoefficients ∧
      furthestUp.accumulate? 32767 = some 1306722104 ∧
      furthestUp.accumulate 32767 = 1306722104 ∧
      (emit (furthestUp.accumulate 32767)).toInt = 32767 := by
  obtain ⟨checked, exactly, -, emitted, -⟩ := no_step_overflows furthestUp 32767 (.inr rfl)
  refine ⟨rfl, checked.trans ?_, exactly.trans ?_, emitted.trans ?_⟩
  · decide
  · decide
  · decide

end HighPass.Filter

end VoiceEngine
