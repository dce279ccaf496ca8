import VoiceEngine.Engine.Call

/-!
# Receipts

A receipt is what a call gives back: how it ended, the frame that was handed over as it is left, the
notices, and the recordings that were let go of. It says nothing about the engine. Two runs look the
same from outside when their receipts are the same, and they are the same for good when they also
lead to the same engine.
-/

namespace VoiceEngine

/-- What the caller of one call gets back. -/
structure Receipt where
  call : Call
  result : Except Fault Reply
  /-- The frame that was handed over, as the call leaves it. -/
  left : Option Frame
  notices : List Notice
  released : List Trace.Sink

/-- The frame that a call hands over. -/
def Call.frame? : Call → Option Frame
  | capture frame => some frame
  | render frame => some frame
  | _ => none

namespace Engine

/-- What a call leaves of the frame that it hands over. A frame to the loudspeaker is only looked
at. -/
def leaves (engine : Engine) : Call → Option Frame
  | .capture frame => some (engine.capture frame).2
  | call => call.frame?

/-- The receipt of one call. -/
def receipt (engine : Engine) (call : Call) : Receipt :=
  let outcome := engine.perform call
  { call
    result := outcome.result
    left := engine.leaves call
    notices := outcome.notices
    released := outcome.released }

/-- The receipts of a run. -/
def receipts (engine : Engine) : List Call → List Receipt
  | [] => []
  | call :: calls => engine.receipt call :: receipts (engine.perform call).state calls

/-- A run begins with the receipt of its first call. -/
theorem receipts_cons (engine : Engine) (call : Call) (calls : List Call) :
    engine.receipts (call :: calls) =
      engine.receipt call :: (engine.perform call).state.receipts calls :=
  rfl

/-- A run ends as its later calls do on the engine that the first call leaves. -/
theorem state_run_cons (engine : Engine) (call : Call) (calls : List Call) :
    (engine.run (call :: calls)).2 = ((engine.perform call).state.run calls).2 :=
  rfl

end Engine

end VoiceEngine
