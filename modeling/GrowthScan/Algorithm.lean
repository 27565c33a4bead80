import GrowthScan.Growth
import GrowthScan.Text.Basic
import GrowthScan.Text.Case
import GrowthScan.Text.Search

/-!
# Named algorithms

An algorithm is recognised by words that follow one another on a line. The first algorithm with a
fitting line wins, and the others are not asked.
-/

namespace GrowthScan

/-- Words that follow one another, each with its choices. -/
abbrev Shape := List (List String)

/-- The word sequences of a shape, one for each way to choose. -/
def Shape.sequences : Shape → List (List (List Char))
  | [] => [[]]
  | choices :: shape =>
    choices.flatMap fun w => (Shape.sequences shape).map fun ws => w.toList :: ws

/-- Whether a sequence of the shape stands in order on the line. -/
def Shape.fits (shape : Shape) (line : List Char) : Bool :=
  shape.sequences.any fun ws => Text.inOrder ws line

/-- The shape without choices. -/
def Shape.ofWords (ws : List String) : Shape := ws.map fun w => [w]

/-- The algorithms that are recognised. -/
inductive Algorithm where
  | binarySearch
  | quickSort
  | mergeSort
  | memoizedFibonacci
  deriving DecidableEq

namespace Algorithm

/-- The algorithms in the order in which they are looked for. -/
def all : List Algorithm := [binarySearch, quickSort, mergeSort, memoizedFibonacci]

def shapes : Algorithm → List Shape
  | binarySearch =>
    [.ofWords ["while", "left", "<=", "right", "mid", "=", "left", "+", "right", "/", "2"],
     .ofWords ["while", "low", "<=", "high", "mid", "=", "low", "+", "high", "/", "2"],
     .ofWords ["while", "start", "<=", "end", "mid", "=", "start", "+", "end", "/", "2"],
     .ofWords ["arr[mid]", "==", "target"],
     .ofWords ["arr[mid]", "<", "target"],
     .ofWords ["arr[mid]", ">", "target"],
     .ofWords ["binary", "search"],
     .ofWords ["binarysearch"],
     [["left", "low", "start"], ["="], ["mid"], ["+"], ["1"],
      ["right", "high", "end"], ["="], ["mid"], ["-"], ["1"]]]
  | quickSort =>
    [.ofWords ["quicksort"], .ofWords ["quick", "sort"], .ofWords ["partition", "function"],
     .ofWords ["partition", "method"], .ofWords ["pivot", "element"],
     .ofWords ["pivot", "selection"]]
  | mergeSort =>
    [.ofWords ["mergesort"], .ofWords ["merge", "sort"],
     .ofWords ["merge", "function", "merge", "function"],
     .ofWords ["divide", "array", "merge", "sorted"]]
  | memoizedFibonacci =>
    [.ofWords ["fibonacci", "memo"], .ofWords ["memo", "fibonacci"],
     .ofWords ["dp[", "]", "fibonacci"], .ofWords ["fibonacci", "dp[", "]"]]

def finding : Algorithm → Finding
  | binarySearch =>
    ⟨"Binary Search Algorithm", .logarithmic,
      "Divide and conquer search - eliminates half the search space each iteration"⟩
  | quickSort => ⟨"Quick Sort Algorithm", .linearithmic, "Divide and conquer sorting algorithm"⟩
  | mergeSort =>
    ⟨"Merge Sort Algorithm", .linearithmic, "Stable divide and conquer sorting algorithm"⟩
  | memoizedFibonacci =>
    ⟨"Fibonacci with Memoization", .linear,
      "Dynamic programming approach to Fibonacci sequence"⟩

/-- Whether a shape of the algorithm fits some line of the text. -/
def appearsIn (a : Algorithm) (text : List Char) : Bool :=
  (text.splitOn '\n').any fun line => a.shapes.any fun shape => shape.fits line

/-- The first algorithm that appears in the text. -/
def recognize? (text : List Char) : Option Algorithm := all.find? (·.appearsIn text)

/-- The finding where no algorithm is recognised. -/
def noFinding : Finding :=
  ⟨"No Specific Algorithm Detected", .constant, "No recognized algorithmic patterns found"⟩

/-- What the text tells about algorithms. -/
def detect (text : List Char) : Finding := ((recognize? text).map finding).getD noFinding

end Algorithm

/-- The text in lower case with one space between words, the form that algorithms are looked for
in. -/
def normalize (code : List Char) : List Char := Text.unwords (Text.words (Text.lower code))

end GrowthScan
