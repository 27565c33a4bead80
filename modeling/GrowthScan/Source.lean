import GrowthScan.Directive
import GrowthScan.Log

/-!
# Analyzing what was read

A source is analyzed without its ignored lines, whatever language it is written in. A source that
is ignored as a whole has no analysis, and one of which nothing but blanks is left is an error.
-/

namespace GrowthScan

/-- The analysis of a source, unless the whole of it is ignored. -/
def analyzeSource (content : List Char) (origin : String) : Except Error (Option Analysis) :=
  match Directive.preprocess content with
  | none => .ok none
  | some code =>
    if (Text.trim code).isEmpty then .error (.emptySource origin)
    else .ok (some (Analysis.ofCode code))

/-- The analysis of the source in a file. -/
def analyzeFile (disk : Disk) (path : String) : Except Error (Option Analysis) :=
  match disk.readText path with
  | .error cause => .error (.unreadable path cause)
  | .ok content => analyzeSource content path

/-! ## The log -/

/-- What is logged while a source is analyzed. -/
def sourceEvents (content : List Char) (origin : String) (language : Language) : List Event :=
  match Directive.preprocess content with
  | none => [.sourceIgnored origin]
  | some code =>
    if (Text.trim code).isEmpty then [] else (Snippet.ofText code).events language

/-- What is logged while the source in a file is analyzed. -/
def fileEvents (disk : Disk) (path : String) (language : Language) : List Event :=
  match disk.readText path with
  | .error _ => []
  | .ok content => sourceEvents content path language

end GrowthScan
