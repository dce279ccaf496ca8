import VoiceEngine.Word

/-!
# All-pass cascades

A first-order all-pass section keeps its last input and its last output. For the next
input `x` it answers `lastInput + a * (x - lastOutput)`, where the coefficient `a` is a
fraction in units of `1 / 65536` and the product is rounded toward negative infinity. The
difference saturates and the sum wraps, both in 32 bits.

A cascade feeds the outputs of one section to the next, three times. A block passes
through one section as a whole before the next section sees it.
-/

namespace VoiceEngine

/-- One first-order section: the input and the output it saw last. -/
structure Section where
  lastInput : Int32 := 0
  lastOutput : Int32 := 0
  deriving DecidableEq

namespace Section

/-- The answer of a section to its next input. -/
def answer (coefficient : Nat) (state : Section) (input : Int32) : Int32 :=
  let difference := Word.subtract32 input state.lastOutput
  let correction := Word.wrap32 (coefficient * difference.toInt / 65536)
  Word.wrap32 (state.lastInput.toInt + correction.toInt)

/-- The section after its next input. -/
def advance (coefficient : Nat) (state : Section) (input : Int32) : Section :=
  { lastInput := input, lastOutput := answer coefficient state input }

/-- The answers to a block of inputs, and the section after it. -/
def run (coefficient : Nat) (state : Section) : List Int32 → List Int32 × Section
  | [] => ([], state)
  | input :: rest =>
    let next := advance coefficient state input
    let (outputs, final) := run coefficient next rest
    (next.lastOutput :: outputs, final)

/-- A section answers every input once. -/
@[simp] theorem length_run (coefficient : Nat) (state : Section) (inputs : List Int32) :
    (run coefficient state inputs).1.length = inputs.length := by
  induction inputs generalizing state with
  | nil => rfl
  | cons input rest inductionHypothesis => simp [run, inductionHypothesis]

end Section

/-- The coefficients of the three sections of a cascade. -/
structure CascadeCoefficients where
  first : Nat
  second : Nat
  third : Nat

/-- Three sections in a row. -/
structure Cascade where
  first : Section := {}
  second : Section := {}
  third : Section := {}
  deriving DecidableEq

namespace Cascade

/-- The answers of a cascade to a block of inputs, and the cascade after it. -/
def run (coefficients : CascadeCoefficients) (state : Cascade) (inputs : List Int32) :
    List Int32 × Cascade :=
  let (once, first) := Section.run coefficients.first state.first inputs
  let (twice, second) := Section.run coefficients.second state.second once
  let (outputs, third) := Section.run coefficients.third state.third twice
  (outputs, { first, second, third })

/-- The words that a cascade keeps: of each section its last input and its last output. -/
def words (state : Cascade) : List Int32 :=
  [state.first.lastInput, state.first.lastOutput, state.second.lastInput,
    state.second.lastOutput, state.third.lastInput, state.third.lastOutput]

/-- The cascade with given words; a word that is missing is zero. -/
def ofWords (words : List Int32) : Cascade :=
  let word (index : Nat) : Int32 := words.getD index 0
  ⟨⟨word 0, word 1⟩, ⟨word 2, word 3⟩, ⟨word 4, word 5⟩⟩

/-- A cascade is determined by its words. -/
@[simp] theorem ofWords_words (state : Cascade) : ofWords state.words = state := rfl

/-- A cascade answers every input once. -/
@[simp] theorem length_run (coefficients : CascadeCoefficients) (state : Cascade)
    (inputs : List Int32) : (run coefficients state inputs).1.length = inputs.length := by
  simp [run]

end Cascade

end VoiceEngine
