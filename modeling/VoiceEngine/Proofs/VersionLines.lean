import Mathlib.Data.List.Basic
import VoiceEngine.Engine.VersionText

/-!
# The version text in a buffer

Writing the version text never cuts a line. What arrives in a buffer is the longest run of whole
pieces, from the first one on, that the room behind the position holds. A piece that does not fit
ends the writing, also when a later one is shorter and would fit. Cells before the position keep
their contents, the cells behind the last piece are cleared, and the position never leaves the
buffer.
-/

namespace VoiceEngine.VersionText

variable {room : Nat} {chunks : List (List UInt8)}

/-- A number of pieces, from the first one on, is the largest that fits into some cells. -/
structure LongestFit (room : Nat) (chunks : List (List UInt8)) (count : Nat) : Prop where
  within : count ≤ chunks.length
  fits : (chunks.take count).flatten.length ≤ room
  longest : ∀ more ≤ chunks.length, (chunks.take more).flatten.length ≤ room → more ≤ count

/-- There is only one such number. -/
theorem LongestFit.unique {count other : Nat} (one : LongestFit room chunks count)
    (two : LongestFit room chunks other) : count = other := by
  have upper : count ≤ other := two.longest count one.within one.fits
  have lower : other ≤ count := one.longest other two.within two.fits
  exact Nat.le_antisymm upper lower

/-- It is all of them exactly when there is room for all bytes. -/
theorem LongestFit.eq_length_iff {count : Nat} (fit : LongestFit room chunks count) :
    count = chunks.length ↔ chunks.flatten.length ≤ room := by
  constructor
  · intro all
    have bytes := fit.fits
    rwa [all, List.take_length] at bytes
  · intro enough
    have bytes : (chunks.take chunks.length).flatten.length ≤ room := by
      rwa [List.take_length]
    exact Nat.le_antisymm fit.within (fit.longest chunks.length (Nat.le_refl _) bytes)

/-- Behind a first piece that does not fit nothing is written. -/
theorem LongestFit.zero {piece : List UInt8} {others : List (List UInt8)}
    (tooLong : room < piece.length) : LongestFit room (piece :: others) 0 := by
  constructor
  · exact Nat.zero_le _
  · exact Nat.zero_le _
  · intro more _ bytes
    cases more with
    | zero => exact Nat.le_refl 0
    | succ more =>
      rw [List.take_succ_cons, List.flatten_cons, List.length_append] at bytes
      omega

/-- A first piece that fits leaves the rest of the room to the others. -/
theorem LongestFit.succ {piece : List UInt8} {others : List (List UInt8)} {count : Nat}
    (short : piece.length ≤ room) (rest : LongestFit (room - piece.length) others count) :
    LongestFit room (piece :: others) (count + 1) := by
  have bytes_cons (more : Nat) : ((piece :: others).take (more + 1)).flatten.length =
      piece.length + (others.take more).flatten.length := by
    rw [List.take_succ_cons, List.flatten_cons, List.length_append]
  constructor
  · exact Nat.succ_le_succ rest.within
  · have bytes := rest.fits
    rw [bytes_cons]
    omega
  · intro more inside bytes
    cases more with
    | zero => exact Nat.zero_le _
    | succ more =>
      rw [bytes_cons] at bytes
      have before : more ≤ count := by
        apply rest.longest more (Nat.le_of_succ_le_succ inside)
        omega
      exact Nat.succ_le_succ before

/-- What fits is the longest run of whole pieces. Induct along the pieces: the room that a piece
leaves is the room of the rest. -/
theorem fitting_spec (room : Nat) (chunks : List (List UInt8)) :
    ∃ count, LongestFit room chunks count ∧
      fitting room chunks = ((chunks.take count).flatten, decide (count = chunks.length)) := by
  induction chunks generalizing room with
  | nil =>
    refine ⟨0, ⟨Nat.le_refl 0, Nat.zero_le room, ?_⟩, rfl⟩
    intro more inside _
    exact inside
  | cons piece others inductionHypothesis =>
    by_cases tooLong : room < piece.length
    · refine ⟨0, .zero tooLong, ?_⟩
      simp [fitting, tooLong]
    · obtain ⟨count, fit, written⟩ := inductionHypothesis (room - piece.length)
      refine ⟨count + 1, .succ (Nat.le_of_not_lt tooLong) fit, ?_⟩
      simp [fitting, tooLong, written]

/-- The bytes of joined texts are the bytes of the texts. -/
theorem bytesOf_join (texts : List String) :
    bytesOf (String.join texts) = (texts.map bytesOf).flatten := by
  induction texts with
  | nil => rfl
  | cons first rest inductionHypothesis =>
    have joined : bytesOf (first ++ String.join rest) =
        bytesOf first ++ bytesOf (String.join rest) := by
      simp [bytesOf]
    rw [String.join_cons, joined, inductionHypothesis, List.map_cons, List.flatten_cons]

/-- What a writing from a position inside the buffer leaves, for the number of pieces that fit. -/
theorem writeInto_of_fit {buffer : List UInt8} {position count : Nat}
    (inside : position ≤ buffer.length)
    (fit : LongestFit (buffer.length - position) (pieces.map bytesOf) count) :
    writeInto buffer position =
      let bytes := bytesOf (String.join (pieces.take count))
      { fault := if count = pieces.length then none else some .badParameter
        buffer := buffer.take position ++ bytes ++
          List.replicate (buffer.length - (position + bytes.length)) 0
        position := position + bytes.length } := by
  obtain ⟨found, foundFit, written⟩ :=
    fitting_spec (buffer.length - position) (pieces.map bytesOf)
  obtain rfl : found = count := foundFit.unique fit
  have bytes : ((pieces.map bytesOf).take found).flatten =
      bytesOf (String.join (pieces.take found)) := by
    rw [bytesOf_join, List.map_take]
  rw [bytes, List.length_map] at written
  simp only [writeInto, if_neg (Nat.not_lt.mpr inside), written, decide_eq_true_eq, Nat.sub_sub]

/-- All lines are written exactly when the room behind the position holds the version text. -/
theorem fault_writeInto_eq_none_iff {buffer : List UInt8} {position : Nat}
    (inside : position ≤ buffer.length) :
    (writeInto buffer position).fault = none ↔
      position + (bytesOf text).length ≤ buffer.length := by
  obtain ⟨count, fit, -⟩ := fitting_spec (buffer.length - position) (pieces.map bytesOf)
  have all := fit.eq_length_iff
  rw [← bytesOf_join, List.length_map] at all
  rw [writeInto_of_fit inside fit, ite_eq_left_iff, text]
  constructor
  · intro complete
    by_contra short
    have cut : ¬ count = pieces.length := by
      rw [all]
      omega
    exact absurd (complete cut) (Option.some_ne_none _)
  · intro enough cut
    exact absurd (all.mpr (by omega)) cut

/-- A buffer of 256 cells holds every line. -/
example : (writeInto (List.replicate 256 0) 0).fault = none :=
  (fault_writeInto_eq_none_iff (Nat.zero_le _)).mpr (by simp only [List.length_replicate]; decide)

/-- The version text is written in whole lines. A position beyond the buffer is refused and nothing
changes. From any other position on the buffer holds the longest run of whole pieces that fits
there, and zeros behind them; what stood before the position stays. The position ends behind the
last piece and inside the buffer, and the answer is no fault exactly when no piece is left. -/
theorem whole_lines_written (buffer : List UInt8) (position : Nat) :
    (buffer.length < position →
      writeInto buffer position = ⟨some .badParameter, buffer, position⟩) ∧
    (position ≤ buffer.length →
      ∃ count, LongestFit (buffer.length - position) (pieces.map bytesOf) count ∧
        let bytes := bytesOf (String.join (pieces.take count))
        let after := writeInto buffer position
        after.buffer = buffer.take position ++ bytes ++
          List.replicate (buffer.length - (position + bytes.length)) 0 ∧
        after.buffer.length = buffer.length ∧
        after.position = position + bytes.length ∧ after.position ≤ buffer.length ∧
        after.fault = if count = pieces.length then none else some .badParameter) := by
  constructor
  · intro beyond
    exact if_pos beyond
  · intro inside
    obtain ⟨count, fit, -⟩ := fitting_spec (buffer.length - position) (pieces.map bytesOf)
    have room : position + (bytesOf (String.join (pieces.take count))).length ≤ buffer.length := by
      have bytes := fit.fits
      rw [← List.map_take, ← bytesOf_join] at bytes
      omega
    refine ⟨count, fit, ?_⟩
    rw [writeInto_of_fit inside fit]
    refine ⟨rfl, ?_, rfl, room, rfl⟩
    simp only [List.length_append, List.length_take, List.length_replicate]
    omega

/-- With 30 cells behind the position the second line does not fit any more. The line of the noise
suppressor would still fit behind the first, and is not written either. -/
theorem whole_lines_written_shorterLater :
    let buffer := List.replicate 33 255
    let after := writeInto buffer 3
    3 ≤ buffer.length ∧
      (bytesOf engineVersion).length + (bytesOf ("\n" ++ EffectKind.noiseSuppressor.version)).length
        = 30 ∧
      after.buffer =
        List.replicate 3 255 ++ bytesOf engineVersion ++ List.replicate 9 0 ∧
      after.position = 24 ∧ after.fault = some .badParameter := by
  have inside : 3 ≤ (List.replicate 33 (255 : UInt8)).length := by decide
  obtain ⟨count, fit, cells, -, position, -, fault⟩ :=
    (whole_lines_written (List.replicate 33 255) 3).2 inside
  have alone : LongestFit 30 (pieces.map bytesOf) 1 := by
    constructor
    · decide
    · decide
    · decide
  obtain rfl : count = 1 := fit.unique alone
  refine ⟨inside, by decide, cells.trans ?_, position.trans ?_, fault⟩
  · decide
  · decide

end VoiceEngine.VersionText
