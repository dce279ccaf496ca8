import VoiceEngine.Engine.Call

/-!
# Histories

An engine comes out of a blueprint with everything at rest and is then changed by calls
alone. What holds of every engine that was just created and is kept by every well-formed call
holds of every reachable engine; `reachable_induction` is that argument, made once.

Some facts about an engine can only be told from how it came about. They are kept up in a
notebook: `remember` lets a rule look at every call of a run, and at the engine before it, and
`remember_induction` carries an invariant between the notebook and the engine through a run.
-/

namespace VoiceEngine.Engine

/-- A notebook after a run. The rule turns the notebook, the engine before a call and the call
into the notebook after that call. -/
def remember {Note : Type} (rule : Note → Engine → Call → Note) (note : Note) (engine : Engine) :
    List Call → Note
  | [] => note
  | call :: calls => remember rule (rule note engine call) (engine.perform call).state calls

/-- What relates the notebook to the engine and is kept by every well-formed call relates them
after every run of such calls. -/
theorem remember_induction {Note : Type} (rule : Note → Engine → Call → Note)
    (Holds : Note → Engine → Prop)
    (kept : ∀ note engine call, call.WellFormed → Holds note engine →
      Holds (rule note engine call) (engine.perform call).state)
    (note : Note) (engine : Engine) (calls : List Call)
    (wellFormed : ∀ call ∈ calls, call.WellFormed) (start : Holds note engine) :
    Holds (engine.remember rule note calls) (engine.run calls).2 := by
  induction calls generalizing note engine with
  | nil => exact start
  | cons call calls inductionHypothesis =>
    have next : Holds (rule note engine call) (engine.perform call).state :=
      kept note engine call (wellFormed call List.mem_cons_self) start
    exact inductionHypothesis (rule note engine call) (engine.perform call).state
      (fun later member => wellFormed later (List.mem_cons_of_mem call member)) next

/-- A created engine has a supported format and is otherwise as an engine that was never
started. -/
theorem create_eq_ok {blueprint : Blueprint} {created : Engine}
    (made : (create blueprint).1 = .ok created) :
    ∃ format, format.Supported ∧ created = blank blueprint.id format := by
  simp only [create] at made
  cases accepted : blueprint.format with
  | error cause => simp [accepted] at made
  | ok format =>
    -- All effects of a new engine are off, so none is prepared and none can refuse.
    have started : (restart (blank blueprint.id format)).result = .ok () ∧
        (restart (blank blueprint.id format)).state = blank blueprint.id format := ⟨rfl, rfl⟩
    simp only [accepted, started.1, started.2] at made
    exact ⟨format, Blueprint.supported_format accepted, (Except.ok.inj made).symm⟩

/-- What holds of created engines and is kept by well-formed calls holds of every reachable
engine. -/
theorem reachable_induction {Holds : Engine → Prop}
    (created : ∀ id format, format.Supported → Holds (blank id format))
    (kept : ∀ engine call, call.WellFormed → Holds engine → Holds (engine.perform call).state)
    {engine : Engine} (reached : engine.Reachable) : Holds engine := by
  obtain ⟨blueprint, calls, first, made, wellFormed, rfl⟩ := reached
  obtain ⟨format, supported, rfl⟩ := create_eq_ok made
  exact remember_induction (fun (_ : Unit) _ _ => ()) (fun _ engine => Holds engine)
    (fun _ engine call => kept engine call) () (blank blueprint.id format) calls wellFormed
    (created blueprint.id format supported)

end VoiceEngine.Engine
