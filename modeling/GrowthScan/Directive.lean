import GrowthScan.Text.Basic
import GrowthScan.Text.Search

/-!
# Ignore directives

A comment of any style may take lines out of the analysis: the whole file, a region, which may
hold further regions, or the next line. A line with a directive is never analyzed itself.
-/

namespace GrowthScan

/-- What a line asks to ignore. -/
inductive Directive where
  /-- The whole file. -/
  | file
  /-- All that follows, up to the matching end. -/
  | regionStart
  | regionEnd
  /-- The line that follows. -/
  | nextLine
  deriving DecidableEq

namespace Directive

/-- The last word of each directive. -/
def keywords : List (String × Directive) :=
  [("file", file), ("start", regionStart), ("end", regionEnd), ("line", nextLine)]

/-- The directive at the front of a text. -/
def atFront? (s : List Char) : Option Directive := do
  let s ← Text.after? "bigo".toList s
  let s ← Text.afterRun? Text.isBlank s
  let s ← Text.after? "ignore".toList s
  let s ← Text.afterRun? Text.isBlank s
  let found ← keywords.find? fun k => (Text.after? k.1.toList s).isSome
  return found.2

/-- The first directive on a line. -/
def ofLine? (line : List Char) : Option Directive := Text.firstSome atFront? line

/-- Whether some line asks to ignore the whole file. -/
def ignoresFile (lines : List (List Char)) : Bool := lines.any fun l => ofLine? l = some file

/-- The lines that are analyzed, inside `depth` open regions; `skip` tells whether the next line
is to be passed over, whatever it holds. -/
def keptLines (depth : Nat) (skip : Bool) : List (List Char) → List (List Char)
  | [] => []
  | l :: ls =>
    if skip then keptLines depth false ls
    else
      match ofLine? l with
      | some regionStart => keptLines (depth + 1) false ls
      | some regionEnd => keptLines (depth - 1) false ls
      | some nextLine => keptLines depth true ls
      | some file => keptLines depth false ls
      | none => if depth = 0 then l :: keptLines depth false ls else keptLines depth false ls

/-- The text that is analyzed, unless the whole file is ignored. -/
def preprocess (content : List Char) : Option (List Char) :=
  let lines := Text.lines content
  if ignoresFile lines then none else some (Text.joinLines (keptLines 0 false lines))

end Directive

end GrowthScan
