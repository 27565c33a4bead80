import GrowthScan.Growth
import GrowthScan.Text.Basic
import GrowthScan.Text.Search
import GrowthScan.Text.Word

/-!
# Loop nests

Lines open and close loops: a loop header opens one, a line with a closing brace closes the last
that is open. Nothing else is looked at.
-/

namespace GrowthScan

namespace Loop

/-- Whether a loop with three clauses starts the text, a comparison in its middle clause. -/
def startsCounted (s : List Char) : Bool :=
  ((Text.after? "for".toList s).bind fun s => Text.after? ['('] (Text.trimStart s)).any fun s =>
    Text.inOrder [[';'], ['<'], [';'], [')']] (Text.firstLine s)

/-- Whether a loop with a condition in parentheses starts the text. -/
def startsConditional (s : List Char) : Bool :=
  ((Text.after? "while".toList s).bind fun s => Text.after? ['('] (Text.trimStart s)).any fun s =>
    Text.inOrder [[')']] (Text.firstLine s)

/-- What follows the header of a loop over a range at the front of the text. -/
def afterRanged? (s : List Char) : Option (List Char) := do
  let s ← Text.after? "for".toList s
  let s ← Text.afterRun? Text.isBlank s
  let s ← Text.afterRun? Text.isWord s
  let s ← Text.afterRun? Text.isBlank s
  let s ← Text.after? "in".toList s
  let s ← Text.afterRun? Text.isBlank s
  Text.after? "range(".toList s

/-- Whether a loop header starts the text. -/
def starts (s : List Char) : Bool :=
  startsCounted s || startsConditional s || (afterRanged? s).isSome

/-- Whether the line holds a loop header. -/
def isOpening (line : List Char) : Bool :=
  (Text.firstSome (fun s => if starts s then some () else none) line).isSome

/-- Whether the line closes a loop. -/
def isClosing (line : List Char) : Bool := line.contains '}'

/-- Words that halve a loop variable. -/
def halvingCues : List String := ["/= 2", ">>= 1", "i = i/2", "n = n/2"]

/-- Whether the line halves a variable or takes the middle of two bounds. -/
def hasHalvingCue (line : List Char) : Bool :=
  Text.occursAny (halvingCues.map String.toList) line ||
    (Text.occurs "left + right".toList line && Text.occurs "/2".toList line)

end Loop

/-- How deep loops nest, and whether one of them halves. -/
structure LoopNest where
  depth : Nat
  halving : Bool
  deriving DecidableEq

/-- The loops that are open after some lines, and the nest that they formed. -/
structure LoopScan where
  opened : Nat
  nest : LoopNest
  deriving DecidableEq

namespace LoopScan

/-- No loop yet. -/
def start : LoopScan := ⟨0, 0, false⟩

/-- One more loop is open. -/
def openLoop (s : LoopScan) (halves : Bool) : LoopScan :=
  ⟨s.opened + 1, max s.nest.depth (s.opened + 1), s.nest.halving || halves⟩

/-- The next line: it may open a loop, and then close one. -/
def step (s : LoopScan) (line : List Char) : LoopScan :=
  let s := if Loop.isOpening line then s.openLoop (Loop.hasHalvingCue line) else s
  if Loop.isClosing line then { s with opened := s.opened - 1 } else s

end LoopScan

namespace LoopNest

/-- The nest that the lines form. -/
def ofLines (lines : List (List Char)) : LoopNest := (lines.foldl LoopScan.step .start).nest

/-- The cost of a loop over each level. A degree is a 32-bit number and keeps the low bits of a
greater depth. -/
def growth (n : LoopNest) : Growth :=
  match n.depth, n.halving with
  | 0, _ => .constant
  | 1, true => .logarithmic
  | 1, false => .linear
  | 2, _ => .quadratic
  | 3, _ => .cubic
  | depth, _ => .polynomial (UInt32.ofNat depth)

/-- The number of levels in words. -/
def levels (n : LoopNest) : String :=
  n.depth.repr ++ if 1 < n.depth then " levels" else " level"

def finding (n : LoopNest) : Finding :=
  if n.depth = 0 then
    ⟨"Sequential Operations", .constant, "No loops detected - constant time operations"⟩
  else if n.depth = 1 && n.halving then
    ⟨"Logarithmic Loop", .logarithmic, "Loop with halving pattern - logarithmic time complexity"⟩
  else
    ⟨"Nested Loops (" ++ n.levels ++ ")", n.growth, n.levels ++ " of loop nesting detected"⟩

end LoopNest

end GrowthScan
