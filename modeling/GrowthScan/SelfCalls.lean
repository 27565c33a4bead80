import GrowthScan.Declaration
import GrowthScan.Growth

/-!
# Self-calls

Recursion is found where the first declared function is called again. The shape of those calls
decides how it grows.
-/

namespace GrowthScan

/-- What is known about calls to the first declared function. -/
structure SelfCalls where
  declaration : Option Declaration
  /-- The number of calls beyond the declaration itself. -/
  calls : Nat
  /-- Whether some line holds more than one of them. -/
  several : Bool
  /-- Whether one of them stands on a line that halves. -/
  halving : Bool

namespace SelfCalls

/-- No declaration, no call. -/
def none : SelfCalls := ⟨.none, 0, false, false⟩

/-- Whether the line divides its problem. -/
def hasHalvingCue (line : List Char) : Bool :=
  Text.occurs "/2".toList line || Text.occurs "mid".toList line ||
    (Text.occurs "left".toList line && Text.occurs "right".toList line)

/-- The calls on a line, less the one that the header itself looks like. -/
def callsOnLine (d : Declaration) (index : Nat) (line : List Char) : Nat :=
  Text.occurrences d.call line - if index = d.line && d.hasCallShape then 1 else 0

/-- The calls on each line. -/
def callCounts (d : Declaration) (lines : List (List Char)) : List Nat :=
  lines.mapIdx (callsOnLine d)

/-- The calls in the lines to the first function that the code declares. -/
def scan (code : List Char) (lines : List (List Char)) : SelfCalls :=
  match Declaration.find? code with
  | .none => none
  | some d =>
    let counts := callCounts d lines
    ⟨d, counts.foldr (· + ·) 0, counts.any (1 < ·),
      (lines.zip counts).any fun (line, n) => 0 < n && hasHalvingCue line⟩

def isRecursive (s : SelfCalls) : Bool := 0 < s.calls

/-- The words that name halving algorithms. -/
def halvingWords : List String := ["binary", "merge", "quick"]

def noFinding : Finding := ⟨"No Recursion", .constant, "No recursive calls detected"⟩

def exponentialFinding : Finding :=
  ⟨"Exponential Recursion (Fibonacci)", .exponential,
    "Multiple recursive calls without memoization - exponential growth"⟩

def halvingFinding : Finding :=
  ⟨"Divide & Conquer Recursion", .logarithmic,
    "Logarithmic recursion - dividing problem space in half"⟩

def linearFinding : Finding :=
  ⟨"Linear Recursion", .linear, "Single recursive call - linear depth"⟩

/-- What the calls mean in code whose lower-case form is `lowered`. -/
def finding (s : SelfCalls) (lowered : List Char) : Finding :=
  if !s.isRecursive then noFinding
  else if Text.occurs "fibonacci".toList lowered && s.several then exponentialFinding
  else if s.halving || Text.occursAny (halvingWords.map String.toList) lowered then halvingFinding
  else linearFinding

end SelfCalls

end GrowthScan
