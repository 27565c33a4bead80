import GrowthScan.Error
import GrowthScan.Text.Basic
import GrowthScan.Text.Case
import GrowthScan.Text.Search

/-!
# Growth classes

How a cost grows with the size of the input. Seven classes are ranked; the polynomials found for
very deep loop nests stay outside the order and lose every comparison. A finding is a reason for a
class.

- `height_worse`: the worse of two classes has the greater height.
-/

namespace GrowthScan

/-- An asymptotic growth class. -/
inductive Growth where
  | constant
  | logarithmic
  | linear
  | linearithmic
  | quadratic
  | cubic
  | exponential
  /-- A power of the size, for nests deeper than three loops. -/
  | polynomial (degree : UInt32)
  deriving DecidableEq, Inhabited

namespace Growth

/-- The ranked classes, cheapest first. -/
def ranked : List Growth :=
  [constant, logarithmic, linear, linearithmic, quadratic, cubic, exponential]

/-- The place among the ranked classes. -/
def rank : Growth → Option Nat
  | constant => some 0
  | logarithmic => some 1
  | linear => some 2
  | linearithmic => some 3
  | quadratic => some 4
  | cubic => some 5
  | exponential => some 6
  | polynomial _ => none

/-- Whether the class has a place in the order. -/
def isRanked (g : Growth) : Bool := g.rank.isSome

/-- Whether the cost does not depend on the size. -/
def isConstant (g : Growth) : Bool := g == constant

/-- The rank as a number, with the unranked classes below all others. -/
def height (g : Growth) : Nat := g.rank.elim 0 (· + 1)

/-- Whether the class ranks strictly above the ceiling. -/
def exceeds (g ceiling : Growth) : Bool := ceiling.height < g.height

/-- The class that ranks higher; a tie keeps `current`. -/
def worse (current candidate : Growth) : Growth :=
  if candidate.exceeds current then candidate else current

/-- The worst of the classes, where no class at all is constant. -/
def worst (gs : List Growth) : Growth := gs.foldl worse constant

/-- The class as it is written. -/
def label : Growth → String
  | constant => "O(1)"
  | logarithmic => "O(log n)"
  | linear => "O(n)"
  | linearithmic => "O(n log n)"
  | quadratic => "O(n²)"
  | cubic => "O(n³)"
  | exponential => "O(2^n)"
  | polynomial degree => "O(n^" ++ degree.toNat.repr ++ ")"

/-- The class in a sentence. -/
def explanation : Growth → String
  | constant => "Constant time - execution time does not depend on input size"
  | logarithmic => "Logarithmic time - very efficient, execution time grows slowly with input size"
  | linear => "Linear time - execution time grows proportionally with input size"
  | linearithmic => "Linearithmic time - common in efficient sorting algorithms"
  | quadratic => "Quadratic time - execution time grows quadratically with input size"
  | cubic => "Cubic time - execution time grows cubically with input size"
  | exponential => "Exponential time - execution time doubles with each additional input"
  | polynomial _ => "Complex algorithmic behavior detected"

/-! ## Reading labels -/

/-- The spellings of the ranked classes, in lower case and without blanks. -/
def spellings : List (String × Growth) :=
  [("o(1)", constant), ("o(logn)", logarithmic), ("o(n)", linear), ("o(nlogn)", linearithmic),
   ("o(n²)", quadratic), ("o(n^2)", quadratic), ("o(n³)", cubic), ("o(n^3)", cubic),
   ("o(2^n)", exponential)]

/-- The number written by one or more decimal digits, after at most one plus sign, if it is below
the bound. -/
def boundedNumber? (bound : Nat) (s : List Char) : Option Nat :=
  let digits := (Text.after? ['+'] s).getD s
  if !digits.isEmpty && digits.all Char.isDigit then
    let n := Nat.ofDigitChars 10 digits 0
    if n < bound then some n else none
  else none

/-- The degree in a spelling such as `o(n^12)`: a 32-bit number above three. -/
def spelledDegree? (s : List Char) : Option Nat := do
  let rest ← Text.after? "o(n^".toList s
  if rest.getLast? = some ')' then
    let degree ← boundedNumber? UInt32.size rest.dropLast
    if 3 < degree then some degree else none
  else none

/-- A label in the form that spellings are compared in: without blanks, in lower case. -/
def compactLabel (label : String) : List Char :=
  Text.lower (label.toList.filter fun c => !Text.isBlank c)

/-- The class that a label names, in any case and with any blanks in it. -/
def ofLabel? (label : String) : Option Growth :=
  let s := compactLabel label
  match spellings.find? fun p => p.1.toList == s with
  | some p => some p.2
  | none => (spelledDegree? s).map fun degree => polynomial (UInt32.ofNat degree)

/-- The class that a label names, or an error that quotes the label as it stands. -/
def ofLabel (label : String) : Except Error Growth :=
  match ofLabel? label with
  | some g => .ok g
  | none => .error (.unknownGrowth label)

/-! ## The order -/

theorem mem_ranked_or (g : Growth) : g ∈ ranked ∨ ∃ d, g = polynomial d := by
  cases g <;> simp [ranked]

theorem mem_ranked_iff {g : Growth} : g ∈ ranked ↔ g.isRanked = true := by
  cases g <;> simp [ranked, isRanked, rank]

theorem exceeds_iff {g c : Growth} : g.exceeds c = true ↔ c.height < g.height := by
  simp [exceeds]

theorem height_worse (a b : Growth) : (worse a b).height = max a.height b.height := by
  simp only [worse, exceeds, decide_eq_true_eq]
  split <;> omega

end Growth

/-! ## Findings -/

/-- One reason for a verdict: what was found, how it grows, and a remark. -/
structure Finding where
  operation : String
  growth : Growth
  remark : String
  deriving DecidableEq, Inhabited

/-- Whether the finding says more than that the cost is constant. -/
def Finding.matters (f : Finding) : Bool := !f.growth.isConstant

end GrowthScan
