/-!
# Reports

A report is a list of lines, each for the standard output or for the error output. The functions
below are its building blocks.
-/

namespace SdkLayout

/-- A line of a report. Its text may itself run over several lines. -/
inductive ReportLine where
  | out (text : String)
  | err (text : String)
  deriving DecidableEq, Repr

/-- The lines that a command prints. -/
abbrev Report := List ReportLine

namespace Report

/-- The text of some lines, each ended by a line feed. -/
def textOf (lines : List String) : String :=
  String.join (lines.map fun l => l ++ "\n")

/-- What a report prints to the standard output. -/
def stdout (r : Report) : String :=
  textOf (r.filterMap fun
    | .out text => some text
    | .err _ => none)

/-- What a report prints to the error output. -/
def stderr (r : Report) : String :=
  textOf (r.filterMap fun
    | .out _ => none
    | .err text => some text)

/-- An empty line. -/
def gap : Report :=
  [.out ""]

/-- A title with a line under it, as long as the title has bytes. -/
def title (text : String) : Report :=
  [.out text, .out (String.ofList (List.replicate text.utf8ByteSize '='))]

/-- The heading of a section. -/
def heading (text : String) : Report :=
  [.out (text ++ ":")]

/-- A value with its name. -/
def entry (key value : String) : Report :=
  [.out (key ++ ": " ++ value)]

/-- A value with its name within a section. -/
def detail (key value : String) : Report :=
  [.out ("  " ++ key ++ ": " ++ value)]

/-- An item of a list. -/
def item (text : String) : Report :=
  [.out ("  - " ++ text)]

/-- The items of a list with numbers in front, from `start` on. -/
def numbered (start : Nat) : List String → Report
  | [] => []
  | text :: rest => .out ("  " ++ toString start ++ ". " ++ text) :: numbered (start + 1) rest

end Report

end SdkLayout
