/-!
# Characters, words and lines

Sets of characters as ranges of code points; blanks, which separate the words of a text and are
trimmed off its ends; and lines. A line feed ends a line, and a carriage return right before it
belongs to the ending. The last line need not be ended; it keeps a carriage return.

- `words_append_cons`: a blank between two texts separates their words.
-/

namespace GrowthScan.Text

/-- Whether the code point lies in one of the ranges, both ends included. -/
def inRanges (ranges : List (Nat × Nat)) (n : Nat) : Bool :=
  ranges.any fun (first, last) => first ≤ n && n ≤ last

/-! ## Blanks and words -/

/-- The characters with the White_Space property. -/
def isBlank (c : Char) : Bool :=
  let n := c.toNat
  (0x9 ≤ n && n ≤ 0xD) || n == 0x20 || n == 0x85 || n == 0xA0 || n == 0x1680 ||
    (0x2000 ≤ n && n ≤ 0x200A) || n == 0x2028 || n == 0x2029 || n == 0x202F || n == 0x205F ||
    n == 0x3000

/-- The text without the blanks at its front. -/
def trimStart (s : List Char) : List Char := s.dropWhile isBlank

/-- The text without the blanks at its end. -/
def trimEnd (s : List Char) : List Char := (s.reverse.dropWhile isBlank).reverse

/-- The text without the blanks at either end. -/
def trim (s : List Char) : List Char := trimEnd (trimStart s)

/-- The longest runs of characters that are not blank, in order. -/
def words (s : List Char) : List (List Char) := (s.splitOnP isBlank).filter (!·.isEmpty)

/-- The words with one space between neighbours. -/
def unwords (ws : List (List Char)) : List Char := [' '].intercalate ws

@[simp] theorem words_nil : words [] = [] := by simp [words, List.splitOnP_nil]

theorem words_append_cons {c : Char} (h : isBlank c) (a b : List Char) :
    words (a ++ c :: b) = words a ++ words b := by
  simp [words, List.splitOnP_append_cons a b h]

/-! ## Lines -/

/-- The line without one carriage return at its end. -/
def dropReturn (line : List Char) : List Char :=
  if line.getLast? = some '\r' then line.dropLast else line

/-- The lines of a text. Nothing follows the last line feed of a text that ends with one. -/
def lines (s : List Char) : List (List Char) :=
  let parts := s.splitOn '\n'
  let last := parts.getLast?.getD []
  parts.dropLast.map dropReturn ++ if last.isEmpty then [] else [last]

/-- The lines with a line feed between neighbours. -/
def joinLines (ls : List (List Char)) : List Char := ['\n'].intercalate ls

/-- The part of the text before its first line feed. -/
def firstLine (s : List Char) : List Char := s.takeWhile (· ≠ '\n')

end GrowthScan.Text
