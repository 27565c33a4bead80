import GrowthScan.Text.Basic
import GrowthScan.Text.Search
import GrowthScan.Text.Word

/-!
# The first declared function

A declaration is recognised by its header, the text up to the first opening parenthesis. A
keyword such as `def` or `int` leads it anywhere on a line, or type words lead it from the start
of a line. The header that starts first counts.
-/

namespace GrowthScan

/-- The header of a declaration. -/
structure Header where
  /-- The number of characters in front of it. -/
  start : Nat
  /-- The header up to the parenthesis, the parenthesis included. -/
  text : List Char
  /-- The declared name. -/
  name : List Char
  deriving DecidableEq

/-- A run of text that ends in a name: what leads to the name, the name, and the gap after it. -/
structure NamedRun where
  lead : List Char
  name : List Char
  gap : List Char

/-- A function declared in a text. -/
structure Declaration where
  name : List Char
  /-- The number of line feeds in front of its header. -/
  line : Nat
  /-- Whether the header itself looks like a call, with no gap between name and parenthesis. -/
  hasCallShape : Bool
  deriving DecidableEq

/-- A space or a tab. -/
def isGap (c : Char) : Bool := c == ' ' || c == '\t'

/-- What may stand between a type and the name: gaps, stars and ampersands. -/
def isTypeEnd (c : Char) : Bool := isGap c || c == '*' || c == '&'

/-- The characters of types after a keyword. -/
def isTypePart (c : Char) : Bool :=
  Text.isWord c || c == '<' || c == '>' || c == '[' || c == ']' || c == ',' || c == '*' || c == '&'

/-- The characters of types at the start of a line, where qualified names are allowed. -/
def isQualifiedPart (c : Char) : Bool := isTypePart c || c == ':'

/-- The run as its lead, the word characters before its last gap, and that gap. -/
def NamedRun.ofRun (run : List Char) : NamedRun :=
  let back := run.reverse
  let named := back.dropWhile isGap
  ⟨(named.dropWhile Text.isWord).reverse, (named.takeWhile Text.isWord).reverse,
    (back.takeWhile isGap).reverse⟩

namespace Header

/-- The words that lead a declaration. -/
def keywords : List String :=
  ["def", "function", "fn", "func", "public", "private", "protected", "static", "void", "int",
   "long", "float", "double", "char", "bool", "boolean", "auto"]

/-- The words that start statements or expressions and are no return type. -/
def statementWords : List String :=
  ["if", "else", "elif", "for", "while", "do", "switch", "case", "return", "catch", "throw", "new",
   "delete", "goto", "yield", "await", "assert", "raise", "print", "not", "and", "or", "in", "is",
   "with", "lambda", "del", "sizeof", "typeof"]

def isKeyword (w : List Char) : Bool := keywords.any fun k => k.toList == w

def isStatementWord (w : List Char) : Bool := statementWords.any fun k => k.toList == w

/-- The longest run of characters with the property, if an opening parenthesis follows it. -/
def runToParenthesis? (p : Char → Bool) (s : List Char) : Option (List Char) :=
  if (s.dropWhile p).head? = some '(' then some (s.takeWhile p) else none

/-- The header that a keyword at the front of a text leads, `start` characters into it. The
keyword is a whole word; a gap, star or ampersand follows it, and a gap precedes the name unless
there is nothing but gaps, stars and ampersands in between. -/
def ofKeyword? (start : Nat) (s : List Char) : Option Header :=
  let keyword := s.takeWhile Text.isWord
  let rest := s.dropWhile Text.isWord
  if isKeyword keyword && rest.head?.any isTypeEnd then do
    let run ← runToParenthesis? (fun c => isTypePart c || isGap c) rest
    let parts := NamedRun.ofRun run
    if !parts.name.isEmpty && (parts.lead.all isTypeEnd || parts.lead.getLast?.any isGap) then
      some ⟨start, keyword ++ run ++ ['('], parts.name⟩
    else none
  else none

/-- The first header that a keyword leads, `start` characters into the text; `inWord` tells
whether a word character precedes. -/
def keywordLedFrom? (start : Nat) (inWord : Bool) : List Char → Option Header
  | [] => none
  | c :: s =>
    match if inWord then none else ofKeyword? start (c :: s) with
    | some h => some h
    | none => keywordLedFrom? (start + 1) (Text.isWord c) s

/-- The first header that a keyword leads. -/
def keywordLed? (code : List Char) : Option Header := keywordLedFrom? 0 false code

/-- Whether the words of a type, or the name, are those of a statement. -/
def isStatement (parts : NamedRun) : Bool :=
  isStatementWord parts.name ||
    (parts.lead.splitOnP fun c => Text.isBlank c || c == '*' || c == '&').any isStatementWord

/-- The header that type words lead from the start of a line, unless the line is a statement or
ends in a semicolon, as a prototype or a call does. -/
def ofLine? (start : Nat) (line : List Char) : Option Header := do
  let indent := line.takeWhile isGap
  let run ← runToParenthesis? (fun c => isQualifiedPart c || isGap c) (line.dropWhile isGap)
  let parts := NamedRun.ofRun run
  if !parts.name.isEmpty && 2 ≤ parts.lead.length && parts.lead.getLast?.any isTypeEnd &&
      !isStatement parts && (Text.trimEnd line).getLast? ≠ some ';' then
    some ⟨start, indent ++ run ++ ['('], parts.name⟩
  else none

/-- The first header that type words lead, where the lines start `start` characters into the
text. -/
def typedFrom? (start : Nat) : List (List Char) → Option Header
  | [] => none
  | line :: lines =>
    match ofLine? start line with
    | some h => some h
    | none => typedFrom? (start + line.length + 1) lines

/-- The first header that type words lead. -/
def typed? (code : List Char) : Option Header := typedFrom? 0 (code.splitOn '\n')

/-- The header that starts first; at the same place a keyword leads. -/
def first? (code : List Char) : Option Header :=
  match keywordLed? code, typed? code with
  | some k, some t => if t.start < k.start then some t else some k
  | some k, none => some k
  | none, t => t

/-- The declaration that the header in the code makes. -/
def declaration (code : List Char) (h : Header) : Declaration :=
  ⟨h.name, (code.take h.start).count '\n', (h.name ++ ['(']).isSuffixOf h.text⟩

end Header

namespace Declaration

/-- The first declaration of a text. -/
def find? (code : List Char) : Option Declaration :=
  (Header.first? code).map (Header.declaration code)

/-- The text of a call. -/
def call (d : Declaration) : List Char := d.name ++ ['(']

end Declaration

end GrowthScan
