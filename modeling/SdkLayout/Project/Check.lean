import SdkLayout.Pipeline.Run
import SdkLayout.Project.Basic
import SdkLayout.Project.Report

/-!
# Checking a project

A check plans a project and keeps what planning had to say. Where planning fails, the failure is
the only error.
-/

namespace SdkLayout

/-- What a check found. -/
structure CheckReport where
  /-- The path of the manifest. -/
  path : String
  errors : List String
  warnings : List String
  infos : List String
  deriving DecidableEq, Repr

namespace CheckReport

/-- Whether a project can be planned. -/
def isValid (r : CheckReport) : Bool :=
  r.errors.isEmpty

/-- The lines of a check. -/
def lines (r : CheckReport) : Report :=
  (r.errors.map fun e => .err ("error: " ++ e))
    ++ (r.warnings.map fun w => .err ("warning: " ++ w))
    ++ (r.infos.map fun i => .out ("info: " ++ i))
    ++ (if r.warnings.isEmpty && r.errors.isEmpty then [] else Report.gap)
    ++ (if r.isValid then [.out ("✓ " ++ r.path ++ " is valid")] else [])

end CheckReport

/-- How a check writes a diagnostic: the location, if there is one, on a line of its own. -/
def Diagnostic.note (d : Diagnostic) : String :=
  match d.location with
  | none => d.message
  | some l => d.message ++ "\n  --> " ++ l

/-- The notes of the diagnostics of a severity. -/
def notesOf (severity : Severity) (diagnostics : List Diagnostic) : List String :=
  (diagnostics.filter fun d => decide (d.severity = severity)).map Diagnostic.note

/-- Checks a project. -/
def Project.check (p : Project) : CheckReport :=
  match planning p.config p.api with
  | .error e => ⟨p.file.path, [e.message], [], []⟩
  | .ok c =>
    ⟨p.file.path, notesOf .error c.diagnostics, notesOf .warning c.diagnostics,
      notesOf .info c.diagnostics⟩

end SdkLayout
