import VoiceEngine.Effect.Pass

/-!
# High-pass filter

A second-order filter in fixed point removes the constant part and the rumble of every
captured channel. Its poles lie close to one, so the two past outputs are kept with more
precision than a sample has: a high word and the remaining fraction in units of
`1 / 32768` of the high word.

Every intermediate result wraps at 32 bits. The emitted sample is the accumulator rounded
to nearest and saturated; the stored outputs are those before saturation.
-/

namespace VoiceEngine

namespace HighPass

/-- The five coefficients: three for the inputs and two for the past outputs, negated. -/
structure Coefficients where
  b0 : Int
  b1 : Int
  b2 : Int
  a1 : Int
  a2 : Int
  deriving DecidableEq

/-- The coefficients for 8000 samples a second. -/
def narrowCoefficients : Coefficients := ⟨3798, -7596, 3798, 7807, -3733⟩

/-- The coefficients for 16000 samples a second. -/
def wideCoefficients : Coefficients := ⟨4012, -8024, 4012, 8002, -3913⟩

/-- The coefficients for a band of a given rate. -/
def coefficientsFor (bandHz : UInt32) : Coefficients :=
  if bandHz = 8000 then narrowCoefficients else wideCoefficients

/-- The memory of one channel: the last two inputs, and the high word and the fraction of
the last two outputs. -/
structure Filter where
  input1 : Int16 := 0
  input2 : Int16 := 0
  high1 : Int16 := 0
  fraction1 : Int16 := 0
  high2 : Int16 := 0
  fraction2 : Int16 := 0
  coefficients : Coefficients
  deriving DecidableEq

namespace Filter

/-- A sum that wraps at 32 bits. -/
def plus (left right : Int) : Int := (Word.wrap32 (left + right)).toInt

/-- The accumulator for the next sample: the doubled feedback and the inputs. -/
def accumulate (filter : Filter) (sample : Sample) : Int :=
  let c := filter.coefficients
  let fractions :=
    plus (filter.fraction1.toInt * c.a1) (filter.fraction2.toInt * c.a2) / 32768
  let feedback :=
    plus (plus fractions (filter.high1.toInt * c.a1)) (filter.high2.toInt * c.a2)
  let doubled := (Word.wrap32 (feedback * 2)).toInt
  plus (plus (plus doubled (sample.toInt * c.b0)) (filter.input1.toInt * c.b1))
    (filter.input2.toInt * c.b2)

/-- The high word that stores an accumulator. -/
def highWord (accumulator : Int) : Int16 := Word.wrap16 (accumulator / 8192)

/-- The fraction that stores what the high word leaves of an accumulator. -/
def fractionWord (accumulator : Int) : Int16 :=
  let remainder := (Word.wrap32 (accumulator - (highWord accumulator).toInt * 8192)).toInt
  Word.wrap16 ((Word.wrap32 (remainder * 4)).toInt)

/-- The sample that is emitted for an accumulator. -/
def emit (accumulator : Int) : Sample :=
  let rounded := (Word.saturate32 (accumulator + 2048)).toInt
  Word.wrap16 (Word.clip (-134217728) 134217727 rounded / 4096)

/-- The filter after one sample. -/
def advance (filter : Filter) (sample : Sample) : Filter :=
  let accumulator := filter.accumulate sample
  { filter with
    input1 := sample
    input2 := filter.input1
    high1 := highWord accumulator
    fraction1 := fractionWord accumulator
    high2 := filter.high1
    fraction2 := filter.fraction1 }

/-- The filtered block, and the filter after it. -/
def run (filter : Filter) : List Sample → List Sample × Filter
  | [] => ([], filter)
  | sample :: rest =>
    let (filtered, final) := run (filter.advance sample) rest
    (emit (filter.accumulate sample) :: filtered, final)

/-- Filtering keeps the length of a block. -/
@[simp] theorem length_run (filter : Filter) (block : List Sample) :
    (filter.run block).1.length = block.length := by
  induction block generalizing filter with
  | nil => rfl
  | cons sample rest inductionHypothesis => simp [run, inductionHypothesis]

end Filter

end HighPass

/-- The high-pass filter of the captured stream: one filter for each output channel. -/
structure HighPass where
  enabled : Bool := false
  filters : List HighPass.Filter := []

namespace HighPass

/-- Fresh filters for a format; a disabled effect keeps what it has. -/
def prepare (effect : HighPass) (format : Format) : HighPass :=
  if effect.enabled then
    { effect with
      filters := List.replicate format.outputChannels
        { coefficients := coefficientsFor format.rate.bandHz } }
  else effect

/-- Filters the low band of one channel. -/
def filterChannel (state : HighPass × StreamBuffer) (channel : Nat) : HighPass × StreamBuffer :=
  let (effect, audio) := state
  match effect.filters[channel]? with
  | none => state
  | some filter =>
    let (filtered, next) := filter.run (audio.lowBand channel)
    ({ effect with filters := effect.filters.set channel next },
      audio.setLowBand channel filtered)

/-- Filters every channel in use, unless there are more channels than filters. -/
def capture (effect : HighPass) (audio : StreamBuffer) : Pass HighPass :=
  if !effect.enabled then .done effect audio
  else if effect.filters.length < audio.channelCount then .refused .unspecified effect audio
  else
    let (effect, audio) := audio.used.foldl filterChannel (effect, audio)
    .done effect audio

end HighPass

end VoiceEngine
