import VoiceEngine.StreamBuffer

/-!
# One pass of one effect

An effect works on the captured audio in place and may refuse to. What it changed before
it refused stays changed, so a pass always says how the effect and the audio are left.
-/

namespace VoiceEngine

/-- How one pass leaves an effect and the audio, and why it was refused if it was. -/
structure Pass (Effect : Type) where
  fault : Option Fault
  effect : Effect
  audio : StreamBuffer

namespace Pass

variable {Effect : Type}

/-- A pass that did its work. -/
def done (effect : Effect) (audio : StreamBuffer) : Pass Effect := ⟨none, effect, audio⟩

/-- A pass that was refused. -/
def refused (fault : Fault) (effect : Effect) (audio : StreamBuffer) : Pass Effect :=
  ⟨some fault, effect, audio⟩

@[simp] theorem fault_done (effect : Effect) (audio : StreamBuffer) :
    (done effect audio).fault = none := rfl

@[simp] theorem fault_refused (fault : Fault) (effect : Effect) (audio : StreamBuffer) :
    (refused fault effect audio).fault = some fault := rfl

end Pass

end VoiceEngine
