import GrowthScan.Json.Fault

/-!
# Reading JSON from the front

A reader takes what it reads off the front of a text and leaves the rest. A failure keeps the
fault and, once it is known, how much text was left at the place it belongs to; `read` turns that
into a line and a column.
-/

namespace GrowthScan.Json

/-- A place in a text, told by how many characters are left there. With `ahead`, the place is one
byte further on, after the character that was looked at. -/
structure Spot where
  left : Nat
  ahead : Bool

/-- A fault found while reading, with its place if it has one. -/
structure Failure where
  fault : Fault
  spot? : Option Spot

/-- Takes a value off the front of a text. -/
abbrev Reader := EStateM Failure (List Char)

namespace Reader

/-- The fault without a place. -/
def refuse (fault : Fault) : Reader α := throw ⟨fault, none⟩

/-- The fault at the text that is left. -/
def fail (fault : Fault) : Reader α := fun s => .error ⟨fault, some ⟨s.length, false⟩⟩ s

/-- The fault after the next byte. -/
def failAhead (fault : Fault) : Reader α := fun s => .error ⟨fault, some ⟨s.length, true⟩⟩ s

/-- A failure without a place gets the place where the reader stopped. -/
def placed (r : Reader α) : Reader α := fun s =>
  match r s with
  | .ok a rest => .ok a rest
  | .error ⟨fault, none⟩ rest => .error ⟨fault, some ⟨rest.length, false⟩⟩ rest
  | .error failure rest => .error failure rest

/-- What `body` reads, followed by `close`. After a failure of `body` the end is looked for all the
same, so that the failure is placed behind it. -/
def closedBy (close : Reader Unit) (body : Reader α) : Reader α := fun s =>
  match body s with
  | .ok a rest => (do close; return a : Reader α) rest
  | .error failure rest =>
    match close rest with
    | .ok _ rest => .error failure rest
    | .error _ rest => .error failure rest

/-- Whether JSON allows the character between values. -/
def isBlank (c : Char) : Bool := c = ' ' || c = '\n' || c = '\t' || c = '\r'

/-- The next character that is not blank; it stays in front of the text. -/
def next? : Reader (Option Char) := fun s =>
  let rest := s.dropWhile isBlank
  .ok rest.head? rest

/-- The next character that is not blank, where a value has to start. -/
def nextOfValue : Reader Char := do
  match ← next? with
  | some c => return c
  | none => failAhead (.endsInside .value)

/-- Drops one character. -/
def advance : Reader Unit := modify List.tail

/-- Reads exactly this word. -/
def word : List Char → Reader Unit
  | [] => pure ()
  | c :: w => do
    match ← get with
    | [] => fail (.endsInside .value)
    | d :: rest =>
      set rest
      if c = d then word w else fail .expectedWord

/-- Reads the colon between a name and its value. -/
def colon : Reader Unit := do
  match ← next? with
  | some ':' => advance
  | some _ => failAhead .expectedColon
  | none => failAhead (.endsInside .object)

/-- Whether an array goes on, up to where its next item starts. -/
def hasItem (first : Bool) : Reader Bool := do
  match ← next? with
  | none => failAhead (.endsInside .list)
  | some ']' => return false
  | some ',' =>
    if first then return true
    advance
    match ← next? with
    | some ']' => failAhead .trailingComma
    | some _ => return true
    | none => failAhead (.endsInside .value)
  | some _ => if first then return true else failAhead .expectedItemOrEnd

/-- Whether an object goes on, up to where its next name starts. -/
def hasMember (first : Bool) : Reader Bool := do
  match ← next? with
  | none => failAhead (.endsInside .object)
  | some '}' => return false
  | some ',' =>
    if first then failAhead .keyNotString
    advance
    match ← next? with
    | some '"' => return true
    | some '}' => failAhead .trailingComma
    | some _ => failAhead .keyNotString
    | none => failAhead (.endsInside .value)
  | some '"' => if first then return true else failAhead .expectedMemberOrEnd
  | some _ => if first then failAhead .keyNotString else failAhead .expectedMemberOrEnd

/-- Reads the end of an array. -/
def endOfList : Reader Unit := do
  match ← next? with
  | some ']' => advance
  | some ',' =>
    advance
    match ← next? with
    | some ']' => failAhead .trailingComma
    | _ => failAhead .trailingCharacters
  | some _ => failAhead .trailingCharacters
  | none => failAhead (.endsInside .list)

/-- Reads the end of an object. -/
def endOfObject : Reader Unit := do
  match ← next? with
  | some '}' => advance
  | some ',' => failAhead .trailingComma
  | some _ => failAhead .trailingCharacters
  | none => failAhead (.endsInside .object)

/-- Nothing but blanks may be left. -/
def endOfText : Reader Unit := do
  if (← next?).isSome then failAhead .trailingCharacters

end Reader

/-- The bytes of the text. -/
def bytes (s : List Char) : List UInt8 := s.flatMap String.utf8EncodeChar

/-- The place behind the first bytes of a text. -/
def Position.after (front : List UInt8) : Position :=
  let parts := front.splitOn 10
  ⟨parts.length, (parts.getLast?.getD []).length⟩

/-- The place in the text that a spot stands for. -/
def Spot.position (spot : Spot) (text : List Char) : Position :=
  let (front, rest) := text.splitAt (text.length - spot.left)
  .after (bytes front ++ if spot.ahead then (bytes rest).take 1 else [])

/-- Reads one value that makes up the whole text. -/
def read (r : Reader α) (text : List Char) : Except Error α :=
  match (do let a ← r; Reader.endOfText; return a : Reader α) text with
  | .ok a _ => .ok a
  | .error failure _ => .error ⟨failure.fault, failure.spot?.map (·.position text)⟩

end GrowthScan.Json
