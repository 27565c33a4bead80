import GrowthScan.Growth
import GrowthScan.Text.Search

/-!
# Library calls with a known cost

A call is recognised by its name anywhere in the code, so `Arrays.sort` is also found as `sort`.
-/

namespace GrowthScan

/-- An operation of a standard library. -/
structure LibraryCall where
  name : String
  growth : Growth
  remark : String

namespace LibraryCall

/-- The known operations. -/
def catalog : List LibraryCall :=
  [⟨"sort", .linearithmic, "Sorting operation"⟩,
   ⟨"sorted", .linearithmic, "Sorting operation"⟩,
   ⟨"Arrays.sort", .linearithmic, "Array sorting"⟩,
   ⟨"Collections.sort", .linearithmic, "Collection sorting"⟩,
   ⟨"qsort", .linearithmic, "Quick sort operation"⟩,
   ⟨"find", .linear, "Linear search operation"⟩,
   ⟨"indexOf", .linear, "Linear search in array"⟩,
   ⟨"reverse", .linear, "Array reversal operation"⟩,
   ⟨"max", .linear, "Finding maximum element"⟩,
   ⟨"min", .linear, "Finding minimum element"⟩]

/-- Whether the name occurs in the code. -/
def occursIn (l : LibraryCall) (code : List Char) : Bool := Text.occurs l.name.toList code

def finding (l : LibraryCall) : Finding :=
  ⟨"Built-in Function: " ++ l.name, l.growth, l.remark⟩

/-- A finding for each operation whose name occurs in the code, in the order of the catalog. -/
def findings (code : List Char) : List Finding :=
  (catalog.filter (·.occursIn code)).map finding

end LibraryCall

end GrowthScan
