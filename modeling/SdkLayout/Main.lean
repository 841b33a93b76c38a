import SdkLayout.Project.Check
import SdkLayout.Project.Explanation

/-!
# The command line

Three commands work on the project of a manifest: `plan` prints where everything goes, `check`
says whether that can be planned, and `explain` shows what a run does. This module parses the
arguments and talks to the disk; everything else is decided elsewhere.
-/

namespace SdkLayout.CommandLine

/-- Access to the disk. -/
def disk : FileAccess IO where
  read path := do
    try return some (← IO.FS.readFile path)
    catch _ => return none
  write path contents := do
    try
      IO.FS.writeFile path contents
      return true
    catch _ => return false
  makeDirectory path := do
    try
      IO.FS.createDirAll path
      return true
    catch _ => return false

/-- The options of all commands. -/
structure Options where
  manifest : String
  definition : Option String
  importPath : Option String
  output : Option String
  snapshots : Bool

/-- The options when none is given. -/
def Options.default : Options :=
  ⟨"placer.toml", none, none, none, false⟩

/-- Reads options. -/
def Options.parse (o : Options) : List String → Except String Options
  | [] => .ok o
  | "--visualize" :: rest => Options.parse { o with snapshots := true } rest
  | name :: value :: rest =>
    if name = "-c" ∨ name = "--config" then Options.parse { o with manifest := value } rest
    else if name = "--ir" then Options.parse { o with definition := some value } rest
    else if name = "--import-path" then Options.parse { o with importPath := some value } rest
    else if name = "-o" ∨ name = "--output" then Options.parse { o with output := some value } rest
    else .error ("unexpected argument '" ++ name ++ "'")
  | [name] => .error ("unexpected argument '" ++ name ++ "'")

/-- Prints a report. -/
def printReport (r : Report) : IO Unit :=
  r.forM fun
    | .out text => IO.println text
    | .err text => IO.eprintln text

/-- Prints why a command failed, and yields its exit code. -/
def fail (message : String) : IO UInt32 := do
  IO.eprintln message
  return 1

/-- Prints the report of a command or why there is none, and yields its exit code. -/
def conclude (r : Except CommandError Report) : IO UInt32 := do
  match r with
  | .error e => fail e.message
  | .ok lines =>
    printReport lines
    return 0

/-- Runs a command on a project. -/
def runCommand (name : String) (o : Options) (p : Project) : IO UInt32 := do
  match name with
  | "plan" => conclude ((← p.runPlan disk ⟨o.output, o.snapshots⟩).map PlanReport.lines)
  | "check" =>
    printReport p.check.lines
    return if p.check.isValid then 0 else 1
  | "explain" => conclude (p.explain.map Explanation.lines)
  | other => fail ("unrecognized subcommand '" ++ other ++ "'")

/-- Loads the project and runs a command on it. -/
def run (name : String) (o : Options) : IO UInt32 := do
  match ← Project.load disk o.manifest ⟨o.definition, o.importPath⟩ with
  | .error e => fail e.message
  | .ok p => runCommand name o p

end SdkLayout.CommandLine

/-- The entry point: the name of a command, then its options. -/
def main (arguments : List String) : IO UInt32 := do
  match arguments with
  | [] => SdkLayout.CommandLine.fail "usage: (plan | check | explain) [OPTIONS]"
  | name :: rest =>
    match SdkLayout.CommandLine.Options.parse .default rest with
    | .error message => SdkLayout.CommandLine.fail message
    | .ok o => SdkLayout.CommandLine.run name o
