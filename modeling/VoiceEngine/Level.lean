import VoiceEngine.Sample

/-!
# Signal levels

The mean square of a block of samples is its power; a full-scale square wave has the
power `32768 * 32768`. A level is that power in decibels below full scale, bounded below
by the level of digital silence.

The sum of squares is a whole number kept to 53 significant bits, so it is exact for
every block shorter than `2 ^ 23` samples.
-/

namespace VoiceEngine.Level

/-- The level that stands for digital silence. -/
def silence : Scalar := -127.0

/-- The power of a full-scale square wave. -/
def fullScalePower : Scalar := 32768.0 * 32768.0

/-- The sum of the squares of a block, kept to 53 significant bits after every addition. -/
def sumOfSquares (block : List Sample) : Nat :=
  block.foldl (fun sum sample => Word.round53 (sum + Sample.square sample)) 0

/-- The mean of the squares of a block, zero for an empty one. -/
def meanSquare (block : List Sample) : Scalar :=
  if block.isEmpty then 0.0
  else (Float.ofNat (sumOfSquares block) / Float.ofNat block.length).toFloat32

/-- The level of a power in decibels relative to full scale. -/
def ofPower (power : Scalar) : Scalar :=
  if power ≤ 0.0 then silence
  else Scalar.larger (10.0 * (power / fullScalePower).log10) silence

/-- The linear gain of a number of decibels. -/
def gainOfDecibels (decibels : Scalar) : Scalar := Float32.pow 10.0 (decibels / 20.0)

/-- The mean of the powers of several blocks, one for each channel. -/
def meanPower (blocks : List (List Sample)) : Scalar :=
  Scalar.total (blocks.map meanSquare) / Scalar.ofCount (max blocks.length 1)

end VoiceEngine.Level
