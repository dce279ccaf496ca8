import VoiceEngine.Trace.Event

/-!
# Where trace bytes come from

Bytes arrive in pieces of any size. Between two pieces a read may be interrupted, which
means that it has to be repeated, or fail. When everything has been delivered, reads
either find the end of the input for ever or fail for ever. An empty piece reads as the
end of the input once.

A single read gives at most as many bytes as were asked for, and the rest of its piece
stays for the next read. An exact read repeats single reads until it has what it needs;
when it cannot, the bytes that it did get are gone. The statements at the end say that no
read adds to what is left to deliver, and that a read which gives a byte uses some of it.
-/

namespace VoiceEngine.Trace

/-- Why a read failed. -/
structure ReadFault where
  /-- Whether the failure is of the kind that also stands for a missing end of input. -/
  isEnd : Bool
  text : String
  deriving DecidableEq

/-- The failure of an exact read that met the end of the input. -/
def ReadFault.short : ReadFault := ⟨true, "failed to fill whole buffer"⟩

/-- What one read meets. -/
inductive Delivery
  | interrupted
  | piece (bytes : Bytes)
  | failed (fault : ReadFault)
  deriving DecidableEq

/-- What is still to be delivered, and what every later read meets. -/
structure Source where
  deliveries : List Delivery
  /-- The failure of every later read; none when later reads find the end of the input. -/
  afterwards : Option ReadFault := none
  deriving DecidableEq

namespace Source

/-- All bytes in one piece. -/
def ofBytes (bytes : Bytes) : Source := { deliveries := [.piece bytes] }

/-- How much a list of deliveries holds: every piece counts its bytes and one more. -/
def pending : List Delivery → Nat
  | [] => 0
  | .interrupted :: rest => pending rest
  | .failed _ :: rest => pending rest
  | .piece bytes :: rest => bytes.length + 1 + pending rest

/-- How much is still to be delivered. -/
def remaining (source : Source) : Nat := pending source.deliveries

/-- The next read of at most `count` bytes. Interruptions are passed over; no bytes stand
for the end of the input. -/
def readFrom (count : Nat) (afterwards : Option ReadFault) :
    List Delivery → Except ReadFault Bytes × List Delivery
  | [] =>
    match afterwards with
    | none => (.ok [], [])
    | some fault => (.error fault, [])
  | .interrupted :: rest => readFrom count afterwards rest
  | .failed fault :: rest => (.error fault, rest)
  | .piece bytes :: rest =>
    match bytes.drop count with
    | [] => (.ok bytes, rest)
    | left => (.ok (bytes.take count), .piece left :: rest)

/-- One read of at most `count` bytes, and the source after it. -/
def read (source : Source) (count : Nat) : Except ReadFault Bytes × Source :=
  let (answer, deliveries) := readFrom count source.afterwards source.deliveries
  (answer, { source with deliveries })

/-- Reads until `count` more bytes are there; `found` holds those already there, in
reverse. -/
def readMore (found : Bytes) (count : Nat) (source : Source) :
    Except ReadFault Bytes × Source :=
  if count = 0 then (.ok found.reverse, source)
  else
    match source.read count with
    | (.error fault, after) => (.error fault, after)
    | (.ok [], after) => (.error .short, after)
    | (.ok (byte :: bytes), after) =>
      readMore ((byte :: bytes).reverse ++ found) (count - (byte :: bytes).length) after
termination_by count
decreasing_by simp only [List.length_cons]; omega

/-- Reads exactly `count` bytes. -/
def readExactly (source : Source) (count : Nat) : Except ReadFault Bytes × Source :=
  readMore [] count source

/-- A read never adds to what is left, and uses some of it when it gives a byte. -/
theorem pending_readFrom (count : Nat) (afterwards : Option ReadFault)
    (deliveries : List Delivery) :
    let (answer, rest) := readFrom count afterwards deliveries
    pending rest ≤ pending deliveries ∧
      ∀ byte bytes, answer = .ok (byte :: bytes) → pending rest < pending deliveries := by
  induction deliveries with
  | nil => cases afterwards <;> simp [readFrom]
  | cons delivery rest inductionHypothesis =>
    cases delivery with
    | interrupted => exact inductionHypothesis
    | failed fault => simp [readFrom, pending]
    | piece bytes =>
      simp only [readFrom]
      split
      · simp only [pending]
        exact ⟨by omega, fun _ _ _ => by omega⟩
      · rename_i left notEmpty
        simp only [pending, List.length_drop]
        refine ⟨by omega, ?_⟩
        intro byte others given
        have positive : 0 < count := by
          rcases count with _ | count
          · simp at given
          · omega
        have nonEmpty : 0 < bytes.length := by
          rcases bytes with _ | _
          · simp at given
          · simp
        omega

/-- A read never adds to what is left. -/
theorem remaining_read_le (source : Source) (count : Nat) :
    (source.read count).2.remaining ≤ source.remaining :=
  (pending_readFrom count source.afterwards source.deliveries).1

/-- A read that gives a byte uses some of what is left. -/
theorem remaining_read_lt (source : Source) (count : Nat) (byte : UInt8) (bytes : Bytes)
    (given : (source.read count).1 = .ok (byte :: bytes)) :
    (source.read count).2.remaining < source.remaining :=
  (pending_readFrom count source.afterwards source.deliveries).2 byte bytes given

/-- An exact read never adds to what is left. -/
theorem remaining_readMore_le (found : Bytes) (count : Nat) (source : Source) :
    (readMore found count source).2.remaining ≤ source.remaining := by
  fun_induction readMore found count source with
  | case1 => exact Nat.le_refl _
  | case2 found count source positive fault after given =>
    have bound := remaining_read_le source count
    rw [given] at bound
    exact bound
  | case3 found count source positive after given =>
    have bound := remaining_read_le source count
    rw [given] at bound
    exact bound
  | case4 found count source positive byte bytes after given inductionHypothesis =>
    have bound := remaining_read_le source count
    rw [given] at bound
    exact Nat.le_trans inductionHypothesis bound

/-- An exact read never adds to what is left. -/
theorem remaining_readExactly_le (source : Source) (count : Nat) :
    (source.readExactly count).2.remaining ≤ source.remaining :=
  remaining_readMore_le [] count source

end Source

end VoiceEngine.Trace
