import VoiceEngine.Notice
import VoiceEngine.Trace.Sink

/-!
# Outcomes

A call answers or fails, and either way it leaves a state, may have given notices and may
have let go of recordings. A failure does not undo what was done before it: in a sequence
the state, the notices and the recordings of the first part stay, and only the second part
does not happen.
-/

namespace VoiceEngine

/-- How a call ended and what it left behind. -/
structure Outcome (State Answer : Type) where
  result : Except Fault Answer
  state : State
  notices : List Notice := []
  /-- Sinks that are no longer written to. -/
  released : List Trace.Sink := []

/-- A call on a state. -/
def Act (State Answer : Type) := State → Outcome State Answer

namespace Act

variable {State Part First Second Answer : Type}

/-- The call that answers and changes nothing. -/
def answer (value : Answer) : Act State Answer := fun state => { result := .ok value, state }

/-- The call that fails and changes nothing. -/
def refuse (fault : Fault) : Act State Answer := fun state => { result := .error fault, state }

/-- The call that gives a notice. -/
def notify (notice : Notice) : Act State Unit := fun state =>
  { result := .ok (), state, notices := [notice] }

/-- One call and then, unless it failed, another. -/
def andThen (first : Act State First) (second : First → Act State Second) : Act State Second :=
  fun state =>
    let early := first state
    match early.result with
    | .error fault => { early with result := .error fault }
    | .ok value =>
      let late := second value early.state
      { late with
        notices := early.notices ++ late.notices
        released := early.released ++ late.released }

instance : Monad (Act State) where
  pure := answer
  bind := andThen

/-- A call on a part of the state. -/
def within (part : State → Part) (replace : State → Part → State) (call : Act Part Answer) :
    Act State Answer := fun state =>
  let outcome := call (part state)
  { outcome with state := replace state outcome.state }

/-- A call that gives one more notice when it fails. -/
def onFault (call : Act State Answer) (notice : Fault → Notice) : Act State Answer :=
  fun state =>
    let outcome := call state
    match outcome.result with
    | .ok _ => outcome
    | .error fault => { outcome with notices := outcome.notices ++ [notice fault] }

@[simp] theorem pure_eq (value : Answer) : (pure value : Act State Answer) = answer value := rfl

@[simp] theorem bind_eq (first : Act State First) (second : First → Act State Second) :
    first >>= second = andThen first second := rfl

@[simp] theorem andThen_answer (value : First) (second : First → Act State Second) :
    andThen (answer value) second = second value := rfl

@[simp] theorem andThen_refuse (fault : Fault) (second : First → Act State Second) :
    andThen (refuse fault) second = refuse fault := rfl

/-- A sequence whose first part answers ends as its second part does, behind the notices and
the released sinks of the first. -/
theorem andThen_of_ok {first : Act State First} {second : First → Act State Second}
    {state : State} {value : First} (answered : (first state).result = .ok value) :
    andThen first second state =
      { second value (first state).state with
        notices := (first state).notices ++ (second value (first state).state).notices
        released := (first state).released ++ (second value (first state).state).released } := by
  simp only [andThen, answered]

/-- A sequence whose first part fails ends there, with all that the first part left behind. -/
theorem andThen_of_error {first : Act State First} {second : First → Act State Second}
    {state : State} {fault : Fault} (failed : (first state).result = .error fault) :
    andThen first second state = { first state with result := .error fault } := by
  simp only [andThen, failed]

end Act

end VoiceEngine
