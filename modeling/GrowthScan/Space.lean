import GrowthScan.Growth
import GrowthScan.Text.Search

/-!
# Memory growth

Allocations and the depth of recursion make memory grow. A table in two dimensions decides alone.
-/

namespace GrowthScan.Space

/-- Words that allocate memory. -/
def allocationCues : List String := ["new ", "[]", "list(", "vector"]

/-- Whether the code allocates. -/
def allocates (code : List Char) : Bool := Text.occursAny (allocationCues.map String.toList) code

/-- Whether the code builds a table in two dimensions. -/
def buildsTable (code : List Char) : Bool :=
  Text.occurs "[][]".toList code ||
    (Text.occurs "new ".toList code && Text.occurs "[".toList code && Text.occurs "][".toList code)

/-- The memory that allocations take. -/
def ofAllocation (code : List Char) : Growth := if allocates code then .linear else .constant

/-- The memory that the stack takes for recursion that grows so. -/
def ofRecursion : Growth → Growth
  | .constant => .constant
  | .logarithmic => .logarithmic
  | _ => .linear

/-- How the memory of the code grows, given the growth of its recursion. -/
def estimate (code : List Char) (recursion : Growth) : Growth :=
  if buildsTable code then .quadratic
  else Growth.worse (ofAllocation code) (ofRecursion recursion)

end GrowthScan.Space
