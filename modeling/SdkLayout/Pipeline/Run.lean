import SdkLayout.Pipeline.Phase

/-!
# Running phases

Phases run one after the other until one fails. A run can be *watched*: an observer sees the state
before and after every phase, and may end the run at any of these moments.
-/

namespace SdkLayout

/-- Runs phases until one fails. -/
def runPhases : List Phase → Context → Except PlanningError Context
  | [], c => .ok c
  | p :: rest, c =>
    match p.run c with
    | (_, .error e) => .error e
    | (next, .ok ()) => runPhases rest next

@[simp] theorem runPhases_nil (c : Context) : runPhases [] c = .ok c := rfl

/-- Plans an API from start to end. -/
def planning (config : Config) (api : Api) : Except PlanningError Context :=
  runPhases Phase.builtin (.new config api)

/-! ### Watched runs -/

/-- A moment of a run. -/
structure Moment where
  /-- Whether the phase has run. -/
  done : Bool
  phase : String
  context : Context

/-- How a moment is named. -/
def Moment.name (m : Moment) : String :=
  (if m.done then "after " else "before ") ++ m.phase

/-- Runs phases under an observer, who may end the run. Yields the moments that the observer saw,
the one at which the run ended included. -/
def watchPhases (observe : Moment → Option PlanningError) :
    List Phase → Context → List Moment × Except PlanningError Context
  | [], c => ([], .ok c)
  | p :: rest, c =>
    let entered : Moment := ⟨false, p.name, c⟩
    match observe entered with
    | some e => ([entered], .error e)
    | none =>
      match p.run c with
      | (_, .error e) => ([entered], .error e)
      | (next, .ok ()) =>
        let left : Moment := ⟨true, p.name, next⟩
        match observe left with
        | some e => ([entered, left], .error e)
        | none =>
          let later := watchPhases observe rest next
          (entered :: left :: later.1, later.2)

/-- An observer who never ends the run does not change its result. -/
theorem watchPhases_none_snd (phases : List Phase) (c : Context) :
    (watchPhases (fun _ => none) phases c).2 = runPhases phases c := by
  induction phases generalizing c with
  | nil => rfl
  | cons p rest ih =>
    unfold watchPhases runPhases
    rcases p.run c with ⟨next, _ | _⟩
    · rfl
    · exact ih next

end SdkLayout
