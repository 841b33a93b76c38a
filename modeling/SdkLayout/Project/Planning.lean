import SdkLayout.Pipeline.Run
import SdkLayout.Pipeline.Snapshot
import SdkLayout.Project.Basic
import SdkLayout.Project.Report

/-!
# Planning a project

A project is planned phase by phase. On request the state after each phase is written to a file of
its own below the project, and the finished plan to a file of the caller's choice.

`Project.plan` is the plan itself, without any file; `Project.runPlan` is the whole command.
-/

namespace SdkLayout

/-- Why a command ended without a report. -/
inductive CommandError where
  /-- The project cannot be planned. -/
  | planning (cause : PlanningError)
  /-- The project cannot be explained, because it cannot be planned. -/
  | explaining (cause : PlanningError)
  /-- The state after a phase cannot be written. -/
  | unwritableSnapshot
  | unwritablePlan (path : String)
  deriving DecidableEq, Repr

/-- The wording of the failure of a command. -/
def CommandError.message : CommandError → String
  | .planning cause => "Planning failed: " ++ cause.message
  | .explaining cause => "Pipeline failed: " ++ cause.message
  | .unwritableSnapshot => "Planning failed"
  | .unwritablePlan path => "Failed to write " ++ path

/-- What is asked for besides the plan itself. -/
structure PlanOptions where
  /-- The file to write the plan to. -/
  output : Option String
  /-- Whether the state after each phase is written. -/
  snapshots : Bool
  deriving DecidableEq, Repr

/-- The plan of a project. -/
structure PlanReport where
  plan : Plan
  warnings : List String
  /-- Where the plan was written. -/
  written : Option String
  /-- Where the states after the phases were written. -/
  snapshotDirectory : Option String
  deriving DecidableEq

/-- The lines for a plan. -/
def PlanReport.lines (r : PlanReport) : Report :=
  (match r.snapshotDirectory with
    | none => []
    | some directory => Report.entry "Pipeline snapshots written to" directory ++ Report.gap)
  ++ (r.warnings.map .err)
  ++ [.out (String.ofList (Text.trimEnd r.plan.display.toList))]
  ++ (match r.written with
    | none => []
    | some path => Report.gap ++ Report.entry "Plan written to" path)

namespace Project

/-- The state and the plan at the end of a run. -/
def finish (run : Except PlanningError Context) : Except PlanningError (Context × Plan) :=
  match run with
  | .error e => .error e
  | .ok c =>
    match c.takePlan with
    | (_, .error e) => .error e
    | (rest, .ok plan) => .ok (rest, plan)

/-- The report of a run, as far as the run was successful. -/
def planReport (o : PlanOptions) (snapshotDirectory : String) (run : Except PlanningError Context) :
    Except CommandError PlanReport :=
  match finish run with
  | .error e => .error (.planning e)
  | .ok (c, plan) =>
    .ok ⟨plan, c.warnings.map Diagnostic.display, o.output,
      if o.snapshots then some snapshotDirectory else none⟩

/-- The plan of a project. -/
def plan (p : Project) : Except CommandError PlanReport :=
  planReport ⟨none, false⟩ "" (planning p.config p.api)

/-! ### The command -/

/-- Where the states after the phases are written. -/
def snapshotDirectory (p : Project) : String :=
  Path.join p.file.root ".placer/debug"

variable {m : Type → Type} [Monad m]

/-- Writes the state of a moment. -/
def writeSnapshot (files : FileAccess m) (directory : String) (moment : Moment) : m Bool := do
  if ← files.makeDirectory directory then
    files.write (Path.join directory (moment.phase ++ ".json"))
      (moment.context.snapshot moment.phase).pretty
  else return false

/-- Writes the state after each phase, until one cannot be written. -/
def writeSnapshots (files : FileAccess m) (directory : String) : List Moment → m Bool
  | [] => return true
  | moment :: rest => do
    if moment.done then
      if ← writeSnapshot files directory moment then writeSnapshots files directory rest
      else return false
    else writeSnapshots files directory rest

/-- Writes the plan of a report where it was asked for. -/
def writePlan (files : FileAccess m) (o : PlanOptions) (r : PlanReport) :
    m (Except CommandError PlanReport) := do
  match o.output with
  | none => return .ok r
  | some path =>
    if ← files.write path r.plan.document then return .ok r
    else return .error (.unwritablePlan path)

/-- Plans a project and writes what is asked for. Snapshots are written even if planning fails
later on. -/
def runPlan (files : FileAccess m) (o : PlanOptions) (p : Project) :
    m (Except CommandError PlanReport) := do
  let (moments, run) := watchPhases (fun _ => none) Phase.builtin (.new p.config p.api)
  let saved ← if o.snapshots then writeSnapshots files p.snapshotDirectory moments else pure true
  if saved then
    match planReport o p.snapshotDirectory run with
    | .error e => return .error e
    | .ok r => writePlan files o r
  else return .error .unwritableSnapshot

end Project

end SdkLayout
