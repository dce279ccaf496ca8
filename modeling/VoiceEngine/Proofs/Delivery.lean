import VoiceEngine.Trace.Source

/-!
# What a source delivers

How many bytes one read gives depends on how they arrive. An exact read hides that: as long as no
read fails and no piece is empty, only the bytes themselves count, one piece behind the other and
interruptions left out. It takes the first of them when there are enough, and all of them, to no
use, when there are not. Bytes held in memory are the case of a single piece.

The bytes of a source may also end with a read that fails. Up to there such a source is like any
other, and an exact read that needs more fails as that read does.
-/

namespace VoiceEngine.Trace.Source

/-- Deliveries that hold certain bytes. No read fails. Only the last piece may be empty, since an
empty piece reads as the end of the input. -/
inductive Holds : List Delivery → Bytes → Prop
  | nothing : Holds [] []
  | last (bytes : Bytes) : Holds [.piece bytes] bytes
  | interrupted {rest : List Delivery} {bytes : Bytes} (later : Holds rest bytes) :
      Holds (.interrupted :: rest) bytes
  | piece {first : Bytes} {rest : List Delivery} {bytes : Bytes} (given : first ≠ [])
      (later : Holds rest bytes) : Holds (.piece first :: rest) (first ++ bytes)

/-- A source delivers certain bytes and then the end of the input. -/
structure Delivers (source : Source) (bytes : Bytes) : Prop where
  holds : Holds source.deliveries bytes
  ends : source.afterwards = none

/-- Bytes in memory are delivered as they are. -/
theorem delivers_ofBytes (bytes : Bytes) : (ofBytes bytes).Delivers bytes := ⟨.last bytes, rfl⟩

/-- Deliveries hold one list of bytes only. -/
theorem Holds.unique {deliveries : List Delivery} {bytes others : Bytes}
    (holds : Holds deliveries bytes) (otherHolds : Holds deliveries others) : bytes = others := by
  induction holds generalizing others with
  | nothing =>
    cases otherHolds
    rfl
  | interrupted later inductionHypothesis =>
    cases otherHolds with
    | interrupted otherLater => exact inductionHypothesis otherLater
  | last piece =>
    cases otherHolds with
    | last => rfl
    | piece given otherLater =>
      cases otherLater
      exact (List.append_nil piece).symm
  | @piece piece rest bytes given later inductionHypothesis =>
    cases otherHolds with
    | last =>
      cases later
      exact List.append_nil piece
    | piece otherGiven otherLater => rw [inductionHypothesis otherLater]

/-- One read gives some first bytes, and the deliveries after it hold the others. It gives none
only when there are none. -/
theorem Holds.read {deliveries : List Delivery} {bytes : Bytes} (holds : Holds deliveries bytes)
    {count : Nat} (positive : 0 < count) :
    ∃ got rest left, readFrom count none deliveries = (.ok got, left) ∧ bytes = got ++ rest ∧
      Holds left rest ∧ got.length ≤ count ∧ (got = [] → bytes = []) := by
  -- A piece is given as a whole, or cut when it is longer than what was asked for.
  have whole {piece : Bytes} (fits : piece.drop count = []) : piece.length ≤ count :=
    List.drop_eq_nil_iff.mp fits
  have part {piece : Bytes} (empty : piece.take count = []) : piece = [] := by
    rcases List.take_eq_nil_iff.mp empty with none | none
    · omega
    · exact none
  induction holds with
  | nothing => exact ⟨[], [], [], rfl, rfl, .nothing, Nat.zero_le count, fun _ => rfl⟩
  | interrupted later inductionHypothesis => exact inductionHypothesis
  | last piece =>
    simp only [readFrom]
    split
    case h_1 fits => exact ⟨piece, [], [], rfl, by simp, .nothing, whole fits, id⟩
    case h_2 =>
      exact ⟨piece.take count, piece.drop count, _, rfl, by simp, .last _,
        List.length_take_le count piece, part⟩
  | @piece piece rest bytes given later inductionHypothesis =>
    simp only [readFrom]
    split
    case h_1 fits =>
      exact ⟨piece, bytes, rest, rfl, rfl, later, whole fits, fun empty => absurd empty given⟩
    case h_2 remaining =>
      refine ⟨piece.take count, piece.drop count ++ bytes, _, rfl, ?_, .piece remaining later,
        List.length_take_le count piece, fun empty => absurd (part empty) given⟩
      rw [← List.append_assoc, List.take_append_drop]

/-- One read from a source, as `Holds.read` says of its deliveries. -/
theorem Delivers.read {source : Source} {bytes : Bytes} (delivers : source.Delivers bytes)
    {count : Nat} (positive : 0 < count) :
    ∃ got rest after, source.read count = (.ok got, after) ∧ bytes = got ++ rest ∧
      after.Delivers rest ∧ got.length ≤ count ∧ (got = [] → bytes = []) := by
  obtain ⟨got, rest, left, result, parts, holds, few, empty⟩ := delivers.holds.read positive
  refine ⟨got, rest, { source with deliveries := left }, ?_, parts, ⟨holds, delivers.ends⟩, few,
    empty⟩
  simp only [Source.read, delivers.ends, result]

/-- Deliveries that hold certain bytes and then meet a failure: that of every later read when
nothing is left, or one that is delivered. No piece is empty. -/
inductive BreaksOff (afterwards : Option ReadFault) (fault : ReadFault) :
    List Delivery → Bytes → Prop
  | spent (fails : afterwards = some fault) : BreaksOff afterwards fault [] []
  | failed (rest : List Delivery) : BreaksOff afterwards fault (.failed fault :: rest) []
  | interrupted {rest : List Delivery} {bytes : Bytes}
      (later : BreaksOff afterwards fault rest bytes) :
      BreaksOff afterwards fault (.interrupted :: rest) bytes
  | piece {first : Bytes} {rest : List Delivery} {bytes : Bytes} (given : first ≠ [])
      (later : BreaksOff afterwards fault rest bytes) :
      BreaksOff afterwards fault (.piece first :: rest) (first ++ bytes)

/-- A source delivers certain bytes and then a failure. -/
def FailsBehind (source : Source) (bytes : Bytes) (fault : ReadFault) : Prop :=
  BreaksOff source.afterwards fault source.deliveries bytes

/-- A source delivers certain bytes and then what is called its ending: a failure, or the end of the
input. -/
def Yields (source : Source) (bytes : Bytes) : Option ReadFault → Prop
  | none => source.Delivers bytes
  | some fault => source.FailsBehind bytes fault

/-- The end of the input is an ending. -/
theorem Delivers.yields {source : Source} {bytes : Bytes} (delivers : source.Delivers bytes) :
    source.Yields bytes none := delivers

/-- A failure is an ending. -/
theorem FailsBehind.yields {source : Source} {bytes : Bytes} {fault : ReadFault}
    (fails : source.FailsBehind bytes fault) : source.Yields bytes (some fault) := fails

/-- What a read answers when nothing is left but the ending. -/
def answerAt : Option ReadFault → Except ReadFault Bytes
  | none => .ok []
  | some fault => .error fault

/-- One read gives some first bytes, and the deliveries after it hold the others, or there are none
and it fails. -/
theorem BreaksOff.read {afterwards : Option ReadFault} {fault : ReadFault}
    {deliveries : List Delivery} {bytes : Bytes}
    (breaksOff : BreaksOff afterwards fault deliveries bytes) {count : Nat} (positive : 0 < count) :
    (∃ got rest left, readFrom count afterwards deliveries = (.ok got, left) ∧ got ≠ [] ∧
        bytes = got ++ rest ∧ BreaksOff afterwards fault left rest ∧ got.length ≤ count) ∨
      bytes = [] ∧ ∃ left, readFrom count afterwards deliveries = (.error fault, left) := by
  induction breaksOff with
  | spent fails => exact .inr ⟨rfl, [], by simp only [readFrom, fails]⟩
  | failed rest => exact .inr ⟨rfl, rest, rfl⟩
  | interrupted later inductionHypothesis => exact inductionHypothesis
  | @piece piece rest bytes given later inductionHypothesis =>
    refine .inl ?_
    simp only [readFrom]
    split
    case h_1 fits =>
      exact ⟨piece, bytes, rest, rfl, given, rfl, later, List.drop_eq_nil_iff.mp fits⟩
    case h_2 remaining =>
      refine ⟨piece.take count, piece.drop count ++ bytes, _, rfl, ?_, ?_,
        .piece remaining later, List.length_take_le count piece⟩
      · intro empty
        rcases List.take_eq_nil_iff.mp empty with none | none
        · omega
        · exact given none
      · rw [← List.append_assoc, List.take_append_drop]

/-- One read gives some first bytes, and the source after it yields the others, or there are none
and it meets the ending. -/
theorem Yields.read {source : Source} {bytes : Bytes} {ending : Option ReadFault}
    (yields : source.Yields bytes ending) {count : Nat} (positive : 0 < count) :
    (∃ got rest after, source.read count = (.ok got, after) ∧ got ≠ [] ∧ bytes = got ++ rest ∧
        after.Yields rest ending ∧ got.length ≤ count) ∨
      bytes = [] ∧ ∃ after, source.read count = (answerAt ending, after) ∧
        (ending = none → after.Delivers []) := by
  cases ending with
  | none =>
    obtain ⟨got, rest, after, result, parts, later, few, empty⟩ :=
      Delivers.read (show source.Delivers bytes from yields) positive
    by_cases nothing : got = []
    · subst nothing
      obtain rfl : bytes = [] := empty rfl
      obtain ⟨-, rfl⟩ := List.append_eq_nil_iff.mp parts.symm
      exact .inr ⟨rfl, after, result, fun _ => later⟩
    · exact .inl ⟨got, rest, after, result, nothing, parts, later, few⟩
  | some fault =>
    rcases BreaksOff.read (show source.FailsBehind bytes fault from yields) positive with
      ⟨got, rest, left, result, given, parts, later, few⟩ | ⟨nothing, left, failure⟩
    · refine .inl ⟨got, rest, { source with deliveries := left }, ?_, given, parts, later, few⟩
      simp only [Source.read, result]
    · refine .inr ⟨nothing, { source with deliveries := left }, ?_, nofun⟩
      simp only [Source.read, failure, answerAt]

/-- An exact read takes the first bytes when there are enough, and the others stay. When there are
not, it fails as the ending says, and at the end of the input nothing stays. -/
theorem Yields.readMore {source : Source} {bytes : Bytes} {ending : Option ReadFault}
    (yields : source.Yields bytes ending) (found : Bytes) (count : Nat) :
    ∃ after, Source.readMore found count source =
        (if count ≤ bytes.length then .ok (found.reverse ++ bytes.take count)
          else .error (ending.getD .short), after) ∧
      (count ≤ bytes.length ∨ ending = none → after.Yields (bytes.drop count) ending) := by
  induction count using Nat.strongRecOn generalizing found source bytes with
  | ind count inductionHypothesis =>
    rcases Nat.eq_zero_or_pos count with rfl | positive
    · exact ⟨source, by simp [Source.readMore], fun _ => by simpa using yields⟩
    · rw [Source.readMore, if_neg (Nat.pos_iff_ne_zero.mp positive)]
      rcases yields.read positive with ⟨got, rest, after, result, given, rfl, later, few⟩ |
        ⟨rfl, after, result, ends⟩
      · obtain ⟨byte, others, rfl⟩ := List.exists_cons_of_ne_nil given
        obtain ⟨final, answer, stays⟩ := inductionHypothesis
          (count - (byte :: others).length) (by simp only [List.length_cons]; omega) later
          ((byte :: others).reverse ++ found)
        have dropped : ((byte :: others) ++ rest).drop count =
            rest.drop (count - (byte :: others).length) := by
          rw [List.drop_append, List.drop_eq_nil_of_le few, List.nil_append]
        have taken : ((byte :: others) ++ rest).take count =
            (byte :: others) ++ rest.take (count - (byte :: others).length) := by
          rw [List.take_append, List.take_of_length_le few]
        have enough : count ≤ ((byte :: others) ++ rest).length ↔
            count - (byte :: others).length ≤ rest.length := by
          rw [List.length_append]
          omega
        refine ⟨final, ?_, fun kept => dropped ▸ stays (kept.imp_left enough.mp)⟩
        simp only [result, answer, enough, taken, List.reverse_append, List.reverse_reverse,
          List.append_assoc]
      · have missing : ¬ count ≤ ([] : Bytes).length := by
          simp only [List.length_nil]
          omega
        rw [if_neg missing, result]
        cases ending with
        | none => exact ⟨after, rfl, fun _ => by rw [List.drop_nil]; exact ends rfl⟩
        | some fault => exact ⟨after, rfl, fun kept => absurd kept (not_or.mpr ⟨missing, nofun⟩)⟩

/-- An exact read from a source that delivers bytes takes the first of them when there are enough,
and fails when there are not; either way the others stay. -/
theorem Delivers.readMore {source : Source} {bytes : Bytes} (delivers : source.Delivers bytes)
    (found : Bytes) (count : Nat) :
    ∃ after, after.Delivers (bytes.drop count) ∧ readMore found count source =
      (if count ≤ bytes.length then .ok (found.reverse ++ bytes.take count) else .error .short,
        after) := by
  obtain ⟨after, answer, stays⟩ := delivers.yields.readMore found count
  exact ⟨after, stays (.inr rfl), answer⟩

/-- An exact read of as many bytes as come first takes these. -/
theorem Delivers.readExactly {source : Source} {first rest : Bytes}
    (delivers : source.Delivers (first ++ rest)) :
    ∃ after, source.readExactly first.length = (.ok first, after) ∧ after.Delivers rest := by
  obtain ⟨after, delivered, answer⟩ := delivers.readMore [] first.length
  have enough : first.length ≤ (first ++ rest).length := by simp
  rw [if_pos enough] at answer
  exact ⟨after, by simpa [Source.readExactly] using answer, by simpa using delivered⟩

/-- An exact read of more bytes than there are fails. -/
theorem Delivers.readExactly_short {source : Source} {bytes : Bytes}
    (delivers : source.Delivers bytes) {count : Nat} (short : bytes.length < count) :
    ∃ after, source.readExactly count = (.error .short, after) := by
  obtain ⟨after, -, answer⟩ := delivers.readMore [] count
  rw [if_neg (Nat.not_le.mpr short)] at answer
  exact ⟨after, answer⟩

/-- A read of one byte takes the first one. -/
theorem Delivers.read_one {source : Source} {byte : UInt8} {bytes : Bytes}
    (delivers : source.Delivers (byte :: bytes)) :
    ∃ after, source.read 1 = (.ok [byte], after) ∧ after.Delivers bytes := by
  obtain ⟨got, rest, after, result, parts, later, few, empty⟩ := delivers.read Nat.one_pos
  match got, few with
  | [], _ => simp at empty
  | [only], _ =>
    obtain ⟨rfl, rfl⟩ := List.cons.inj parts
    exact ⟨after, result, later⟩

/-- A read at the end of the input gives nothing, and so does every later one. -/
theorem Delivers.read_end {source : Source} (delivers : source.Delivers []) :
    ∃ after, source.read 1 = (.ok [], after) ∧ after.Delivers [] := by
  obtain ⟨got, rest, after, result, parts, later, -, -⟩ := delivers.read Nat.one_pos
  obtain ⟨rfl, rfl⟩ := List.append_eq_nil_iff.mp parts.symm
  exact ⟨after, result, later⟩

end VoiceEngine.Trace.Source
