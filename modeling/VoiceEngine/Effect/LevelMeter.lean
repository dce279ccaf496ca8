import VoiceEngine.Effect.Pass
import VoiceEngine.Level

/-!
# Level meter

The level of each stream is the mean square of everything measured since the level was
last read, as a whole number of decibels below full scale between 0 and 127. Both bands of
a split stream carry the signal at full amplitude, so their squares add while only the
samples of one band are counted. Reading a level starts a new measurement of that stream
and leaves the other alone.
-/

namespace VoiceEngine

namespace LevelMeter

/-- The level of silence, and of a stream of which nothing was measured. -/
def quietest : Nat := 127

/-- One measurement: the sum of squares, kept to 53 significant bits, and the number of
samples. -/
structure Measurement where
  sumOfSquares : Nat := 0
  sampleCount : Nat := 0
  deriving DecidableEq

namespace Measurement

/-- The measurement with the squares of a block added, but not its length. -/
def addSquares (measurement : Measurement) (block : List Sample) : Measurement :=
  { measurement with
    sumOfSquares := Word.round53 (measurement.sumOfSquares + Level.sumOfSquares block) }

/-- The measurement with one channel added. -/
def addChannel (audio : StreamBuffer) (measurement : Measurement) (channel : Nat) :
    Measurement :=
  let low := audio.lowBand channel
  let measured := measurement.addSquares low
  let counted := { measured with sampleCount := measured.sampleCount + low.length }
  match audio.highBand? channel with
  | some high => counted.addSquares high
  | none => counted

/-- The measurement with every channel in use added. -/
def add (measurement : Measurement) (audio : StreamBuffer) : Measurement :=
  audio.used.foldl (addChannel audio) measurement

/-- The level in decibels below full scale. -/
def level (measurement : Measurement) : Nat :=
  if measurement.sampleCount = 0 ∨ measurement.sumOfSquares = 0 then quietest
  else
    let fullScale := Float.ofNat measurement.sampleCount * (32768.0 * 32768.0)
    let decibels := 10.0 * (Float.ofNat measurement.sumOfSquares / fullScale).log10
    let rounded := (-decibels).round
    if rounded < 0.0 then 0
    else if 127.0 < rounded then quietest
    else rounded.toUInt8.toNat

end Measurement

end LevelMeter

/-- The level meter of both streams. -/
structure LevelMeter where
  enabled : Bool := false
  captured : LevelMeter.Measurement := {}
  rendered : LevelMeter.Measurement := {}

namespace LevelMeter

/-- Starts both measurements anew; a disabled meter keeps what it has. -/
def prepare (meter : LevelMeter) : LevelMeter :=
  if meter.enabled then { meter with captured := {}, rendered := {} } else meter

/-- Measures the captured stream. -/
def capture (meter : LevelMeter) (audio : StreamBuffer) : LevelMeter :=
  if meter.enabled then { meter with captured := meter.captured.add audio } else meter

/-- Measures the stream to the loudspeaker. -/
def render (meter : LevelMeter) (audio : StreamBuffer) : LevelMeter :=
  if meter.enabled then { meter with rendered := meter.rendered.add audio } else meter

/-- Reads the level of the captured stream and starts a new measurement of it. -/
def takeCaptured (meter : LevelMeter) : Except Fault Nat × LevelMeter :=
  if meter.enabled then (.ok meter.captured.level, { meter with captured := {} })
  else (.error .notEnabled, meter)

/-- Reads the level of the stream to the loudspeaker and starts a new measurement of it. -/
def takeRendered (meter : LevelMeter) : Except Fault Nat × LevelMeter :=
  if meter.enabled then (.ok meter.rendered.level, { meter with rendered := {} })
  else (.error .notEnabled, meter)

end LevelMeter

end VoiceEngine
