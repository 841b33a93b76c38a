import SdkLayout.Project.Planning

/-!
# Explaining a project

An explanation says what a run does in general, which phases and lints there are, and what it did
to this project: which declarations it moved and which artifacts a collision moved.
-/

namespace SdkLayout

/-- A declaration whose path was corrected. -/
structure Correction where
  subject : String
  origin : String
  destination : String
  deriving DecidableEq, Repr

/-- The correction that a relocation makes. -/
def Relocation.correction (r : Relocation) : Correction :=
  ⟨r.type.text, r.origin.display, r.destination.display⟩

/-- The correction that a demotion makes. -/
def demotionCorrection (e : SubpackageId × NormalSubpackage) : Correction :=
  ⟨e.1.text, e.2.declaredPath.display, e.2.path.display⟩

/-- What a run does, and what it did to a project. -/
structure Explanation where
  /-- The path of the manifest. -/
  path : String
  config : Config
  plan : Plan
  /-- Types that moved out of import cycles. -/
  relocations : List Correction
  /-- Subpackages that got a package of their own. -/
  demotions : List Correction
  deriving DecidableEq

namespace Explanation

/-- Artifacts that a collision moved. -/
def fallbacks (e : Explanation) : List Artifact :=
  e.plan.fallbacks

/-- The lines for the input of a run. -/
def inputLines (e : Explanation) : Report :=
  Report.entry "Input" e.path
    ++ Report.detail "API" e.plan.apiName
    ++ Report.detail "Import path"
        (if e.config.isSingleModule then "(single module)" else e.config.importPath)
    ++ Report.detail "Mode" e.config.mode.name
    ++ (match e.config.organization with
        | none => []
        | some organization => Report.detail "Organization" organization)

/-- The lines for the phases of every run. -/
def phaseLines : Report :=
  Report.heading "Pipeline Phases"
    ++ Report.numbered 1 (Phase.builtin.map fun p => p.name ++ " - " ++ p.description)

/-- The lines for the lints of every run. -/
def lintLines : Report :=
  Report.heading "Validation Lints"
    ++ Lint.standard.flatMap fun l => Report.item (l.name ++ ": " ++ l.description)

/-- The lines for the plan. -/
def planLines (e : Explanation) : Report :=
  Report.heading "Plan"
    ++ Report.detail "Strategy" e.plan.strategy.name
    ++ Report.detail "Files" (toString e.plan.files.length ++ " ("
        ++ toString e.plan.declarationCount ++ " declarations)")
    ++ Report.detail "Clients" (toString e.plan.clients.length)
    ++ Report.detail "Artifacts" (toString e.plan.artifacts.length)

/-- A section of its own for some items, nothing if there are none. -/
def optionalSection {α : Type} (heading : String) (line : α → String) (items : List α) : Report :=
  if items.isEmpty then []
  else Report.gap ++ Report.heading heading ++ items.flatMap fun a => Report.item (line a)

/-- The line for a correction. -/
def correctionLine (c : Correction) : String :=
  c.subject ++ ": " ++ c.origin ++ " -> " ++ c.destination

/-- The lines of an explanation. -/
def lines (e : Explanation) : Report :=
  Report.title "Placer Pipeline Explanation" ++ Report.gap
    ++ e.inputLines ++ Report.gap
    ++ phaseLines ++ Report.gap
    ++ lintLines ++ Report.gap
    ++ e.planLines
    ++ optionalSection "Cycle Relocations" correctionLine e.relocations
    ++ optionalSection "Demoted Subpackages" correctionLine e.demotions
    ++ optionalSection "Collision Fallbacks" Artifact.display e.fallbacks

end Explanation

/-- Explains a project. -/
def Project.explain (p : Project) : Except CommandError Explanation :=
  match Project.finish (planning p.config p.api) with
  | .error e => .error (.explaining e)
  | .ok (c, plan) =>
    .ok
      { path := p.file.path
        config := p.config
        plan
        relocations :=
          match c.cycles with
          | none => []
          | some r => r.relocations.map Relocation.correction
        demotions :=
          match c.tree with
          | none => []
          | some tree => tree.demoted.map demotionCorrection }

end SdkLayout
