import GrowthScan.Text.Width

/-!
# Escape sequences of terminals

An escape character starts a sequence that sets a style or moves the cursor and takes no column. A
text is measured, and stripped, without the sequences in it; each is taken as long as possible.
-/

namespace GrowthScan.Text

/-- Where a sequence stands. -/
inductive EscapeState where
  /-- Behind the escape character. -/
  | opened
  /-- Behind a parenthesis, where a character set may be chosen. -/
  | charset
  /-- Behind the choice of a character set. -/
  | chosen
  /-- Behind brackets and other marks. -/
  | marks
  /-- Behind this many digits of a number. -/
  | digits (n : Nat)
  /-- Behind a number and its semicolon. -/
  | semicolon
  | ended
  deriving DecidableEq

namespace EscapeState

/-- Whether a sequence may end here. -/
def isFinal : EscapeState → Bool
  | chosen | digits _ | ended => true
  | opened | charset | marks | semicolon => false

/-- Whether a sequence may end with this character. -/
def isLast (c : Char) : Bool :=
  'A' ≤ c && c ≤ 'P' || 'f' ≤ c && c ≤ 'n' ||
    ['R', 'Z', 'c', 'q', 'r', 'y', '=', '>', '<'].contains c

/-- The state behind a further character of the sequence. -/
def next? (st : EscapeState) (c : Char) : Option EscapeState :=
  match st with
  | opened =>
    if c = '(' || c = ')' then some charset
    else if [';', '[', '#', '?'].contains c then some marks
    else if c.isDigit then some (digits 1)
    else if isLast c then some ended
    else none
  | charset =>
    if ['(', ')', ';', '[', '#', '?'].contains c then some marks
    else if '0' ≤ c && c ≤ '2' then some chosen
    else if c.isDigit then some (digits 1)
    else if isLast c then some ended
    else none
  | marks =>
    if ['(', ')', ';', '[', '#', '?'].contains c then some marks
    else if c.isDigit then some (digits 1)
    else if isLast c then some ended
    else none
  | digits n =>
    if 4 < n then none
    else if c = ';' then some semicolon
    else if c.isDigit then some (digits (n + 1))
    else if isLast c then some ended
    else none
  | semicolon =>
    if c = ';' then some semicolon
    else if c.isDigit then some (digits 1)
    else if isLast c then some ended
    else none
  | chosen | ended => none

end EscapeState

/-- What follows the longest sequence that goes on from a state, where `found` follows the longest
one so far. -/
def afterSequence? (st : EscapeState) (found : Option (List Char)) : List Char → Option (List Char)
  | [] => found
  | c :: s =>
    match st.next? c with
    | none => found
    | some st => afterSequence? st (if st.isFinal then some s else found) s

/-- What follows the escape sequence at the front of a text. -/
def afterEscape? : List Char → Option (List Char)
  | [] => none
  | c :: s => if c = '\x1b' || c = '\u009b' then afterSequence? .opened none s else none

/-- Puts a character in front of the first part. -/
def consToFirst (c : Char) : List (List Char) → List (List Char)
  | [] => [[c]]
  | p :: ps => (c :: p) :: ps

/-- The parts of a text between its escape sequences, after the first `skip` characters. -/
def partsAfter : Nat → List Char → List (List Char)
  | _, [] => [[]]
  | skip + 1, _ :: s => partsAfter skip s
  | 0, c :: s =>
    match afterEscape? (c :: s) with
    | some rest => [] :: partsAfter (s.length - rest.length) s
    | none => consToFirst c (partsAfter 0 s)

/-- The parts of a text between its escape sequences. -/
def plainParts (s : List Char) : List (List Char) := partsAfter 0 s

/-- The text without its escape sequences. -/
def stripped (s : List Char) : List Char := (plainParts s).flatten

/-- The columns that a text takes on a terminal. -/
def width (s : List Char) : Nat := ((plainParts s).map plainWidth).foldr (· + ·) 0

end GrowthScan.Text
