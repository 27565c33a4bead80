import GrowthScan.Algorithm
import GrowthScan.LibraryCall
import GrowthScan.Loop
import GrowthScan.SelfCalls
import GrowthScan.Space
import GrowthScan.Text.Basic

/-!
# Analysis of a snippet

Every detector reads the snippet once, and the worst of what they find is the verdict.

- `Analysis.time_eq`: the time verdict is the worst class of the findings.
-/

namespace GrowthScan

/-- A piece of code in the forms that the detectors read. -/
structure Snippet where
  /-- The code without blanks at its ends. -/
  code : List Char
  /-- The lines of the code, each without blanks at its ends. -/
  lines : List (List Char)
  normalized : List Char
  lowered : List Char

/-- The verdict on a snippet. -/
structure Analysis where
  time : Growth
  space : Growth
  explanation : String
  /-- The reasons in the order algorithm, loops, recursion, library calls. -/
  findings : List Finding
  deriving DecidableEq, Inhabited

namespace Snippet

def ofText (text : List Char) : Snippet :=
  let code := Text.trim text
  ⟨code, (Text.lines code).map Text.trim, normalize code, Text.lower code⟩

def algorithm (s : Snippet) : Finding := Algorithm.detect s.normalized

def loops (s : Snippet) : Finding := (LoopNest.ofLines s.lines).finding

def selfCalls (s : Snippet) : SelfCalls := .scan s.code s.lines

def recursion (s : Snippet) : Finding := s.selfCalls.finding s.lowered

def libraryCalls (s : Snippet) : List Finding := LibraryCall.findings s.code

/-- How the snippet's memory grows, given the growth of its recursion. -/
def space (s : Snippet) (recursion : Growth) : Growth := Space.estimate s.code recursion

/-- The findings that matter. A recognised algorithm accounts for its own loops. -/
def findings (s : Snippet) : List Finding :=
  let first := if s.algorithm.matters then [s.algorithm] else [s.loops].filter (·.matters)
  first ++ [s.recursion].filter (·.matters) ++ s.libraryCalls.filter (·.matters)

def analysis (s : Snippet) : Analysis :=
  let time := Growth.worst (s.findings.map (·.growth))
  ⟨time, s.space s.recursion.growth, time.explanation, s.findings⟩

end Snippet

namespace Analysis

/-- The analysis of a piece of code. -/
def ofCode (code : List Char) : Analysis := (Snippet.ofText code).analysis

theorem time_eq (code : List Char) :
    (ofCode code).time = Growth.worst ((ofCode code).findings.map (·.growth)) := by
  rw [ofCode, Snippet.analysis]

end Analysis

end GrowthScan
