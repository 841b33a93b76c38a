import SdkLayout.Pipeline.Context
import SdkLayout.Pipeline.Lint

/-!
# The phases of planning

Each phase fills in results of its own and may add diagnostics:

* `validate` builds the reference graph, checks that an import path is there if one is needed, and
  runs the lints;
* `resolve-cycles` moves types out of import cycles;
* `collect-names` registers what the SDK declares;
* `normalize` brings the package tree into normal form;
* `place` makes the plan.

A phase that fails still yields a state: what was known before stays known, and diagnostics that
explain the failure are kept.
-/

namespace SdkLayout

/-- A phase of planning. -/
structure Phase where
  name : String
  description : String
  run : Context → Context × Except PlanningError Unit

namespace Phase

/-! ### Validation -/

/-- Runs lints on a state and keeps the reference graph. Errors end planning, whether a lint
reported them or they were there before. -/
def lintAndKeep (lints : List Lint) (graph : ReferenceGraph) (c : Context) :
    Context × Except PlanningError Unit :=
  let linted :=
    { c.report (lints.flatMap fun l => l.check c.api c.config) with graph := some graph }
  (linted, if linted.hasErrors then .error (.lintErrors linted.errors.length) else .ok ())

/-- Validates the API of a state. -/
def runValidate (lints : List Lint) (c : Context) : Context × Except PlanningError Unit :=
  match ReferenceGraph.build c.api c.config.importPath with
  | .error e => (c, .error (.layout e))
  | .ok graph =>
    match graph.checkImportPath with
    | .error e => (c.report [⟨.error, "validate", e.message, none⟩], .error (.layout e))
    | .ok () => lintAndKeep lints graph c

/-- Resolves packages and checks the import path, with the given lints. -/
def validateWith (lints : List Lint) : Phase where
  name := "validate"
  description := "Resolve type packages and check the import path precondition"
  run := runValidate lints

/-- Resolves packages and checks the import path, with the standard lints. -/
def validate : Phase :=
  validateWith Lint.standard

/-! ### Import cycles -/

/-- What is said about the move of a type. -/
def relocationNote (r : Relocation) : Diagnostic :=
  ⟨.info, "resolve-cycles",
    "moved from " ++ r.origin.display ++ " to " ++ r.destination.display ++ " to break the cycle "
      ++ " -> ".intercalate r.cycle,
    some r.type.text⟩

/-- Resolves the import cycles of the API of a state. -/
def runResolveCycles (c : Context) : Context × Except PlanningError Unit :=
  match c.api.resolveCycles c.config.importPath with
  | .error e => (c, .error (.layout e))
  | .ok (corrected, report) =>
    ({ c.report (report.relocations.map relocationNote) with
        corrected := some corrected, cycles := some report },
      .ok ())

/-- Moves types out of import cycles. -/
def resolveCycles : Phase where
  name := "resolve-cycles"
  description := "Move leaf types out of package import cycles"
  run := runResolveCycles

/-! ### Names and packages -/

/-- Registers what the SDK declares. -/
def collectNames : Phase where
  name := "collect-names"
  description := "Collect generated names and packages for collision checks"
  run c := ({ c with registry := some (.ofApi c.currentApi) }, .ok ())

/-- What is said about a demoted subpackage. -/
def demotionNote (e : SubpackageId × NormalSubpackage) : Diagnostic :=
  ⟨.info, "normalize",
    "demoted into its own package '" ++ "/".intercalate e.2.path.dirs ++ "/'", some e.1.text⟩

/-- Brings the package tree of a state into normal form. -/
def runNormalize (c : Context) : Context × Except PlanningError Unit :=
  match NormalTree.ofApi c.currentApi with
  | .error e => (c, .error (.layout e))
  | .ok tree => ({ c.report (tree.demoted.map demotionNote) with tree := some tree }, .ok ())

/-- Brings the package tree into normal form. -/
def normalize : Phase where
  name := "normalize"
  description := "Demote subpackages that are both a file and a directory"
  run := runNormalize

/-! ### The plan -/

/-- What is said about an artifact that a collision moved. -/
def fallbackNote (a : Artifact) : Diagnostic :=
  ⟨.warning, "place",
    a.kind.name ++ " placed in " ++ a.target.filename
      ++ " to avoid a collision with a generated declaration",
    none⟩

/-- Makes the plan of a state. -/
def runPlace (c : Context) : Context × Except PlanningError Unit :=
  match c.registry, c.tree with
  | none, _ => (c, .error .registryMissing)
  | some _, none => (c, .error .treeMissing)
  | some registry, some tree =>
    match Plan.build c.config c.currentApi registry tree with
    | .error e => (c, .error (.layout e))
    | .ok plan =>
      ({ c.report (plan.fallbacks.map fallbackNote) with plan := some plan }, .ok ())

/-- Makes the plan. -/
def place : Phase where
  name := "place"
  description := "Assign files and packages to declarations and artifacts"
  run := runPlace

/-- The phases of every run, in order. -/
def builtin : List Phase :=
  [validate, resolveCycles, collectNames, normalize, place]

end Phase

end SdkLayout
