import Mathlib.Algebra.GroupWithZero.Nat
import VoiceEngine.Effect.LevelMeter

/-!
# What a measurement adds up

A measurement keeps its sum of squares to 53 significant bits, and rounds after every sample and
every block. As long as the whole energy stays below the limit up to which every number is kept, no
rounding changes anything, in whatever order channels and bands were added: the sum is the energy
itself. The number of samples is not rounded at all.
-/

namespace VoiceEngine

namespace Level

/-- The energy of a block, the exact sum of the squares of its samples. -/
def energy (block : List Sample) : Nat := (block.map fun sample => sample.toInt.natAbs ^ 2).sum

/-- One more sample adds its square. -/
theorem energy_cons (sample : Sample) (block : List Sample) :
    energy (sample :: block) = Sample.square sample + energy block := by
  rw [energy, List.map_cons, List.sum_cons, Nat.pow_two]
  rfl

/-- The sum of squares of a block with less energy than the limit is exact. Induct along the block:
every partial sum is below the limit as well. -/
theorem sumOfSquares_of_lt {block : List Sample} (small : energy block < Word.exactLimit) :
    sumOfSquares block = energy block := by
  have summed (block : List Sample) (start : Nat) (small : start + energy block < Word.exactLimit) :
      block.foldl (fun sum sample => Word.round53 (sum + Sample.square sample)) start =
        start + energy block := by
    induction block generalizing start with
    | nil => rfl
    | cons sample rest inductionHypothesis =>
      have apart := energy_cons sample rest
      have exact : Word.round53 (start + Sample.square sample) = start + Sample.square sample :=
        Word.round53_of_lt (by omega)
      rw [List.foldl_cons, exact, inductionHypothesis _ (by omega), apart, Nat.add_assoc]
  have whole := summed block 0 (by omega)
  rwa [Nat.zero_add] at whole

end Level

/-- The energy of a channel in the bands that a measurement reads. -/
def StreamBuffer.energy (audio : StreamBuffer) (channel : Nat) : Nat :=
  Level.energy (audio.lowBand channel) + (audio.highBand? channel).elim 0 Level.energy

/-- The energy of a channel as it is stored: that of both of its bands at the rate that is split,
and that of the channel itself at the other rates. -/
def StreamBuffer.storedEnergy (audio : StreamBuffer) (rate : SampleRate) (channel : Nat) : Nat :=
  match rate with
  | .superWide =>
    let pair := audio.bands.getD channel { low := [], high := [] }
    Level.energy pair.low + Level.energy pair.high
  | .narrow | .wide => Level.energy (audio.channels.getD channel [])

/-- The energy of a channel is that of its bands. -/
theorem StreamBuffer.energy_congr {audio other : StreamBuffer} {channel : Nat}
    (low : audio.lowBand channel = other.lowBand channel)
    (high : audio.highBand? channel = other.highBand? channel) :
    audio.energy channel = other.energy channel := by
  rw [energy, energy, low, high]

namespace LevelMeter.Measurement

/-- A measurement counts exactly so many samples, and its sum of squares is exactly their energy
while that is below the limit of exact sums. -/
structure Accounts (measurement : Measurement) (count energy : Nat) : Prop where
  sampleCount : measurement.sampleCount = count
  sumOfSquares : energy < Word.exactLimit → measurement.sumOfSquares = energy

variable {measurement : Measurement} {count energy : Nat}

/-- A new measurement accounts for nothing. -/
theorem accounts_new : ({} : Measurement).Accounts 0 0 := ⟨rfl, fun _ => rfl⟩

/-- Adding the squares of a block adds its energy. -/
theorem Accounts.addSquares (known : measurement.Accounts count energy) (block : List Sample) :
    (measurement.addSquares block).Accounts count (energy + Level.energy block) := by
  refine ⟨known.sampleCount, ?_⟩
  intro small
  have before : measurement.sumOfSquares = energy := known.sumOfSquares (by omega)
  have added : Level.sumOfSquares block = Level.energy block :=
    Level.sumOfSquares_of_lt (by omega)
  rw [Measurement.addSquares, before, added, Word.round53_of_lt small]

/-- Adding a channel adds the samples of its low band and the energy of both bands. -/
theorem Accounts.addChannel (known : measurement.Accounts count energy) (audio : StreamBuffer)
    (channel : Nat) :
    (measurement.addChannel audio channel).Accounts (count + (audio.lowBand channel).length)
      (energy + audio.energy channel) := by
  have low := known.addSquares (audio.lowBand channel)
  have counted : ({ measurement.addSquares (audio.lowBand channel) with
      sampleCount := (measurement.addSquares (audio.lowBand channel)).sampleCount +
        (audio.lowBand channel).length } : Measurement).Accounts
      (count + (audio.lowBand channel).length)
      (energy + Level.energy (audio.lowBand channel)) :=
    ⟨congrArg (· + (audio.lowBand channel).length) low.sampleCount, low.sumOfSquares⟩
  simp only [Measurement.addChannel, StreamBuffer.energy]
  cases audio.highBand? channel with
  | none => exact counted
  | some high =>
    rw [Option.elim_some, ← Nat.add_assoc]
    exact counted.addSquares high

/-- Adding a stream adds the samples and the energy of its channels in use. -/
theorem Accounts.add (known : measurement.Accounts count energy) (audio : StreamBuffer) :
    (measurement.add audio).Accounts
      (count + (audio.used.map fun channel => (audio.lowBand channel).length).sum)
      (energy + (audio.used.map audio.energy).sum) := by
  have added (channels : List Nat) :
      (channels.foldl (Measurement.addChannel audio) measurement).Accounts
        (count + (channels.map fun channel => (audio.lowBand channel).length).sum)
        (energy + (channels.map audio.energy).sum) := by
    induction channels generalizing measurement count energy with
    | nil => exact known
    | cons channel others inductionHypothesis =>
      rw [List.map_cons, List.map_cons, List.sum_cons, List.sum_cons, ← Nat.add_assoc,
        ← Nat.add_assoc]
      exact inductionHypothesis (known.addChannel audio channel)
  exact added audio.used

/-- Streams with the same bands in use are added alike. -/
theorem add_congr {audio other : StreamBuffer} (measurement : Measurement)
    (count : audio.channelCount = other.channelCount)
    (low : ∀ channel, audio.lowBand channel = other.lowBand channel)
    (high : ∀ channel, audio.highBand? channel = other.highBand? channel) :
    measurement.add audio = measurement.add other := by
  have channelwise : Measurement.addChannel audio = Measurement.addChannel other := by
    funext measurement channel
    simp only [Measurement.addChannel, low, high]
  rw [Measurement.add, Measurement.add, channelwise, StreamBuffer.used, StreamBuffer.used, count]

end LevelMeter.Measurement

end VoiceEngine
