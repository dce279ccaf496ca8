import VoiceEngine.Trace.Event

/-!
# Where trace bytes go

A sink stores bytes. One write may store only the first of the bytes it is offered, may
fail without storing any, and may be interrupted some times before it goes through. What a
write does can depend on how many were tried before and on how much is stored already, so
a sink may fail now and work again later.

Writing a whole list repeats single writes until all bytes are stored. It gives up when a
write fails or stores nothing; the bytes that did fit stay.
-/

namespace VoiceEngine.Trace

/-- What a write that goes through does. -/
inductive Uptake
  /-- The first of the offered bytes are stored, at most so many. -/
  | stores (room : Nat)
  /-- Nothing is stored. -/
  | fails (text : String)

/-- What one write meets. -/
structure Reception where
  /-- How often the write is interrupted before it goes through. -/
  interruptions : Nat := 0
  uptake : Uptake

/-- A place for the bytes of a trace. -/
structure Sink where
  /-- How the owner of the sink knows it. -/
  label : Nat
  /-- What a write meets after a number of attempts and with a number of bytes stored. -/
  reception : Nat → Nat → Reception
  /-- Why flushing fails, when it does. -/
  flushFailure : Option String := none
  /-- The writes that were tried so far, counting the interrupted ones. -/
  attempts : Nat := 0
  /-- The bytes stored so far. -/
  stored : Array UInt8 := #[]

namespace Sink

/-- A sink that stores everything. -/
def unlimited (label : Nat) (room : Nat) : Sink :=
  { label, reception := fun _ _ => { uptake := .stores room } }

/-- The bytes stored so far as a list. -/
def bytes (sink : Sink) : Bytes := sink.stored.toList

/-- The failure of a write that stores nothing although bytes are offered. -/
def nothingStored : String := "failed to write whole buffer"

/-- Writes a list of bytes: why it could not be completed, if it could not, and the sink
afterwards. -/
def writeAll (sink : Sink) (offered : Bytes) : Option String × Sink :=
  match offered with
  | [] => (none, sink)
  | byte :: others =>
    let reception := sink.reception sink.attempts sink.stored.size
    let attempts := sink.attempts + reception.interruptions + 1
    match reception.uptake with
    | .fails text => (some text, { sink with attempts })
    | .stores 0 => (some nothingStored, { sink with attempts })
    | .stores (room + 1) =>
      { sink with attempts, stored := sink.stored ++ (byte :: others.take room) }.writeAll
        (others.drop room)
termination_by offered.length
decreasing_by simp only [List.length_drop, List.length_cons]; omega

/-- Writing stores a first part of what was offered behind what was stored before, and all
of it exactly when nothing failed. -/
theorem bytes_writeAll (sink : Sink) (offered : Bytes) :
    ∃ first rest, offered = first ++ rest ∧
      (sink.writeAll offered).2.bytes = sink.bytes ++ first ∧
      ((sink.writeAll offered).1 = none ↔ rest = []) := by
  fun_induction writeAll sink offered with
  | case1 sink => exact ⟨[], [], rfl, by simp, by simp⟩
  | case2 sink byte others reception attempts text given =>
    exact ⟨[], byte :: others, rfl, by simp [bytes], by simp⟩
  | case3 sink byte others reception attempts given =>
    exact ⟨[], byte :: others, rfl, by simp [bytes], by simp⟩
  | case4 sink byte others reception attempts room given inductionHypothesis =>
    obtain ⟨first, rest, cut, kept, complete⟩ := inductionHypothesis
    refine ⟨byte :: others.take room ++ first, rest, ?_, ?_, complete⟩
    · simp [← cut]
    · simpa [bytes] using kept

end Sink

end VoiceEngine.Trace
