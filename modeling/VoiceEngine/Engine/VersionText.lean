import VoiceEngine.Effect.Kind
import VoiceEngine.Fault

/-!
# The version text

The version text is the version of the engine followed by a line for every effect that has
a version, in the order of the effects. It is written into a buffer piece by piece from a
given position on: the rest of the buffer is cleared first, and the writing stops at the
first piece that does not fit as a whole. A position beyond the buffer changes nothing.
-/

namespace VoiceEngine.VersionText

/-- The version of the engine. -/
def engineVersion : String := "AudioProcessing 1.0.0"

/-- The pieces of the version text. Every piece but the first begins with a line break. -/
def pieces : List String :=
  engineVersion ::
    (EffectKind.all.filter (·.version ≠ "")).map fun kind => "\n" ++ kind.version

/-- The whole version text. -/
def text : String := String.join pieces

/-- The bytes of a piece. -/
def bytesOf (piece : String) : List UInt8 := piece.toUTF8.data.toList

/-- The bytes that fit into a number of cells when pieces are only written whole, and
whether all of them fit. -/
def fitting : Nat → List (List UInt8) → List UInt8 × Bool
  | _, [] => ([], true)
  | room, piece :: others =>
    if room < piece.length then ([], false)
    else
      let (written, complete) := fitting (room - piece.length) others
      (piece ++ written, complete)

/-- A buffer after writing, and the position behind what was written. -/
structure Written where
  fault : Option Fault
  buffer : List UInt8
  position : Nat
  deriving DecidableEq

/-- Writes the version text into a buffer from a position on. -/
def writeInto (buffer : List UInt8) (position : Nat) : Written :=
  if buffer.length < position then ⟨some .badParameter, buffer, position⟩
  else
    let room := buffer.length - position
    let (written, complete) := fitting room (pieces.map bytesOf)
    { fault := if complete then none else some .badParameter
      buffer := buffer.take position ++ written ++ List.replicate (room - written.length) 0
      position := position + written.length }

end VoiceEngine.VersionText
