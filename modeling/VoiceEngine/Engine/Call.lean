import VoiceEngine.Engine.Processing
import VoiceEngine.Engine.Setup

/-!
# Calls

Everything that can be asked of an engine, as data. A run is a list of calls performed one
after another on the same engine; a call that fails does not end the run.
-/

namespace VoiceEngine

/-- One call on an engine. -/
inductive Call
  | restart
  | setRate (hz : UInt32)
  | setChannels (input output : Nat)
  | setReverseChannels (channels : Nat)
  | enable (kind : EffectKind) (enabled : Bool)
  | adjust (setting : Setting)
  | reportDelay (ms : Int)
  | changeId (id : Int)
  | capture (frame : Frame)
  | render (frame : Frame)
  | takeCapturedLevel
  | takeRenderedLevel
  | record (sink : Trace.Sink)
  | recordFile (path : String) (opened : Except String Trace.Sink)
  | stopRecording

/-- A call that hands over a frame hands over one that holds exactly what it announces. -/
def Call.WellFormed : Call → Prop
  | .capture frame => frame.WellFormed
  | .render frame => frame.WellFormed
  | _ => True

instance (call : Call) : Decidable call.WellFormed := by
  unfold Call.WellFormed
  cases call <;> infer_instance

/-- What a call that succeeded answers. -/
inductive Reply
  | done
  /-- The frame after it was processed. -/
  | frame (frame : Frame)
  /-- A level in decibels below full scale. -/
  | level (level : Nat)
  deriving DecidableEq

namespace Engine

/-- The outcome with its answer as a reply. -/
def replying {Answer : Type} (reply : Answer → Reply) (outcome : Outcome Engine Answer) :
    Outcome Engine Reply :=
  { outcome with result := outcome.result.map reply }

/-- Performs one call. -/
def perform (engine : Engine) : Call → Outcome Engine Reply
  | .restart => replying (fun _ => .done) (restart engine)
  | .setRate hz => replying (fun _ => .done) (setRate hz engine)
  | .setChannels input output => replying (fun _ => .done) (setChannels input output engine)
  | .setReverseChannels channels => replying (fun _ => .done) (setReverseChannels channels engine)
  | .enable kind enabled => replying (fun _ => .done) (enable kind enabled engine)
  | .adjust setting => replying (fun _ => .done) (adjust setting engine)
  | .reportDelay ms => replying (fun _ => .done) (reportDelay ms engine)
  | .changeId id => replying (fun _ => .done) (changeId id engine)
  | .capture frame =>
    let (outcome, final) := engine.capture frame
    replying (fun _ => .frame final) outcome
  | .render frame => replying (fun _ => .done) (render frame engine)
  | .takeCapturedLevel => replying .level (takeCapturedLevel engine)
  | .takeRenderedLevel => replying .level (takeRenderedLevel engine)
  | .record sink => replying (fun _ => .done) (record sink engine)
  | .recordFile path opened => replying (fun _ => .done) (recordFile path opened engine)
  | .stopRecording => replying (fun _ => .done) (stopRecording engine)

/-- Performs calls one after another: what each of them answered, and the engine at the
end. -/
def run (engine : Engine) : List Call → List (Except Fault Reply) × Engine
  | [] => ([], engine)
  | call :: calls =>
    let outcome := engine.perform call
    let (results, final) := run outcome.state calls
    (outcome.result :: results, final)

/-- Cutting a run in two changes neither the answers nor the final engine. -/
theorem run_append (engine : Engine) (first second : List Call) :
    engine.run (first ++ second) =
      let (early, between) := engine.run first
      let (late, final) := between.run second
      (early ++ late, final) := by
  induction first generalizing engine with
  | nil => rfl
  | cons call calls inductionHypothesis => simp [run, inductionHypothesis]

/-- The engines that some blueprint and some run of well-formed calls lead to. -/
def Reachable (engine : Engine) : Prop :=
  ∃ blueprint calls created, (create blueprint).1 = .ok created ∧
    (∀ call ∈ calls, call.WellFormed) ∧ (created.run calls).2 = engine

end Engine

end VoiceEngine
