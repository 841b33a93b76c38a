import SdkLayout.Pipeline.Diagnostic
import SdkLayout.Graph.Resolution
import SdkLayout.Plan

/-!
# The state of planning

Planning proceeds in phases. What they have found out so far is a `Context`: the configuration and
the API, which never change, one field per result, and the diagnostics in the order in which they
came up.
-/

namespace SdkLayout

/-- Why planning ended without a plan. -/
inductive PlanningError where
  | layout (cause : LayoutError)
  /-- The lints reported errors, as many as given. -/
  | lintErrors (count : Nat)
  | registryMissing
  | treeMissing
  | planMissing
  /-- An observer ended the run. -/
  | stopped (message : String)
  deriving DecidableEq, Repr

/-- The wording of a planning error. -/
def PlanningError.message : PlanningError → String
  | .layout cause => cause.message
  | .lintErrors count => "validation failed with " ++ toString count ++ " error(s)"
  | .registryMissing => "registry not set - place must run after collect-names"
  | .treeMissing => "subpackages not set - place must run after normalize"
  | .planMissing => "layout plan not set - did the place phase run?"
  | .stopped message => message

/-- What planning has found out so far. -/
structure Context where
  config : Config
  /-- The API as it was read. -/
  api : Api
  /-- The references of the API as it was read. -/
  graph : Option ReferenceGraph
  /-- The API without import cycles. -/
  corrected : Option Api
  /-- What was done about import cycles. -/
  cycles : Option CycleReport
  registry : Option Registry
  tree : Option NormalTree
  plan : Option Plan
  diagnostics : List Diagnostic

namespace Context

/-- The state before the first phase. -/
def new (config : Config) (api : Api) : Context where
  config
  api
  graph := none
  corrected := none
  cycles := none
  registry := none
  tree := none
  plan := none
  diagnostics := []

/-- The API as far as it is corrected. -/
def currentApi (c : Context) : Api :=
  c.corrected.getD c.api

/-- The errors among the diagnostics. -/
def errors (c : Context) : List Diagnostic :=
  c.diagnostics.filter Diagnostic.isError

/-- The warnings among the diagnostics. -/
def warnings (c : Context) : List Diagnostic :=
  c.diagnostics.filter Diagnostic.isWarning

/-- Whether there are errors. -/
def hasErrors (c : Context) : Bool :=
  !c.errors.isEmpty

/-- Whether there are warnings. -/
def hasWarnings (c : Context) : Bool :=
  !c.warnings.isEmpty

/-- Adds diagnostics at the end. -/
def report (diagnostics : List Diagnostic) (c : Context) : Context :=
  { c with diagnostics := c.diagnostics ++ diagnostics }

/-- Takes the plan out of the state. -/
def takePlan (c : Context) : Context × Except PlanningError Plan :=
  match c.plan with
  | some plan => ({ c with plan := none }, .ok plan)
  | none => (c, .error .planMissing)

end Context

end SdkLayout
