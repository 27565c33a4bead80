import GrowthScan.Analysis.Json
import GrowthScan.Language
import GrowthScan.Text.Basic
import GrowthScan.Text.Escape
import GrowthScan.Text.Style

/-!
# Reports

The analysis of one input is held against ceilings and shown as a table for readers, as one line, or
as JSON.
-/

namespace GrowthScan

/-- The greatest acceptable growth of time and space. -/
structure Ceilings where
  time? : Option Growth
  space? : Option Growth

/-- What is told when a class exceeds its ceiling. -/
def Growth.violation? (g : Growth) (what : String) (ceiling? : Option Growth) : Option String := do
  let ceiling ← ceiling?
  if g.exceeds ceiling then some (what ++ " " ++ g.label ++ " exceeds " ++ ceiling.label) else none

/-- The ceilings that an analysis exceeds, in words. -/
def Ceilings.violations (c : Ceilings) (a : Analysis) : List String :=
  (a.time.violation? "time" c.time?).toList ++ (a.space.violation? "space" c.space?).toList

/-- The analysis of one input. -/
structure Report where
  path : String
  language : Language
  analysis : Analysis
  violations : List String

namespace Report

def new (path : String) (language : Language) (analysis : Analysis) (c : Ceilings) : Report :=
  ⟨path, language, analysis, c.violations analysis⟩

/-- Whether some ceiling is exceeded. -/
def isViolation (r : Report) : Bool := !r.violations.isEmpty

/-! ## Tables -/

/-- The colour of a class tells how bad it is. -/
def growthStyle (g : Growth) : Text.Style :=
  match g.rank with
  | some rank => if rank ≤ 2 then .green else if rank = 3 then .yellow else .boldRed
  | none => .magenta

/-- The label of a class in its colour. -/
def paintedLabel (colored : Bool) (g : Growth) : List Char :=
  Text.paint colored (growthStyle g) g.label.toList

/-- The text, or three dots and its end where it is longer than `most` characters. -/
def cutFront (most : Nat) (s : List Char) : List Char :=
  if s.length ≤ most then s else ['.', '.', '.'] ++ s.drop (s.length - (most - 3))

/-- The columns between a label and a class at the least. -/
def padding : Nat := 2

/-- A row of the table: a label, a filler, and a class at the right end. -/
def row (colored : Bool) (width : Nat) (filler : Char) (label : List Char) (g : Growth) :
    List Char :=
  let room := width - (Text.width g.label.toList + padding)
  let label := cutFront room label
  label ++ List.replicate (room - Text.width label + 1) filler ++ [' '] ++ paintedLabel colored g

/-- The rows of a finding. -/
def findingRows (colored : Bool) (width : Nat) (f : Finding) : List (List Char) :=
  [row colored width '.' ("  - ".toList ++ f.operation.toList) f.growth,
   "      ".toList ++ Text.paint colored .dimmed f.remark.toList]

/-- The rows of the table. -/
def rows (r : Report) (colored : Bool) (width : Nat) : List (List Char) :=
  let a := r.analysis
  let title := r.path.toList ++ " (".toList ++ r.language.displayName.toList ++ [')']
  [row colored width '-' title a.time,
   "  ".toList ++ Text.paint colored .bold "time:".toList ++ [' '] ++ paintedLabel colored a.time ++
     "  ".toList ++ Text.paint colored .bold "space:".toList ++ [' '] ++
     paintedLabel colored a.space,
   "  ".toList ++ Text.paint colored .italic a.explanation.toList] ++
  a.findings.flatMap (findingRows colored width) ++
  r.violations.map fun v =>
    "  ".toList ++ Text.paint colored .boldRed "exceeded:".toList ++ [' '] ++ v.toList

/-- The table. -/
def pretty (r : Report) (colored : Bool) (width : Nat) : List Char :=
  Text.joinLines (r.rows colored width)

/-! ## Other forms -/

/-- The report on one line, with a mark if some ceiling is exceeded. -/
def compact (r : Report) : List Char :=
  r.path.toList ++ ['\t'] ++ r.analysis.time.label.toList ++ ['\t'] ++
    r.analysis.space.label.toList ++ if r.isViolation then [' ', '!'] else []

def toJson (r : Report) : Json :=
  .object ([("path", .string r.path), ("language", .string r.language.id),
    ("result", r.analysis.toJson)] ++
    if r.violations.isEmpty then [] else [("violations", .strings r.violations)])

/-- The reports as one JSON text. -/
def jsonText (reports : List Report) : List Char := Json.pretty (.array (reports.map toJson))

end Report

end GrowthScan
