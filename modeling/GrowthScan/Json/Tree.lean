import GrowthScan.Json.Literal

/-!
# Whole values in JSON texts

One walk over a value serves for reading it into a tree and for passing over it: a `Builder` says
what becomes of each node.
-/

namespace GrowthScan.Json

/-- What a value is turned into, node by node. -/
structure Builder (α κ : Type) where
  null : α
  bool : Bool → α
  /-- A number, from its first digit on, and whether it is negative. -/
  number : Bool → Reader α
  /-- A string, from behind its opening quote on. -/
  string : Reader α
  /-- A name, from behind its opening quote on. -/
  name : Reader κ
  array : List α → α
  object : List (κ × α) → α

namespace Reader

mutual

/-- Reads a value of fewer than `fuel` characters. -/
def value (b : Builder α κ) : Nat → Reader α
  | 0 => failAhead .expectedValue
  | fuel + 1 => do
    let c ← nextOfValue
    if c = 'n' then advance; word "ull".toList; return b.null
    else if c = 't' then advance; word "rue".toList; return b.bool true
    else if c = 'f' then advance; word "alse".toList; return b.bool false
    else if c = '-' then advance; b.number true
    else if c.isDigit then b.number false
    else if c = '"' then advance; b.string
    else if c = '[' then advance; return b.array (← items b fuel true)
    else if c = '{' then advance; return b.object (← members b fuel true)
    else failAhead .expectedValue

/-- Reads the items of an array and its end; `first` tells whether none was read before. -/
def items (b : Builder α κ) : Nat → Bool → Reader (List α)
  | 0, _ => failAhead .expectedItemOrEnd
  | fuel + 1, first => do
    if ← hasItem first then
      let item ← value b fuel
      return item :: (← items b fuel false)
    else
      advance
      return []

/-- Reads the members of an object and its end; `first` tells whether none was read before. -/
def members (b : Builder α κ) : Nat → Bool → Reader (List (κ × α))
  | 0, _ => failAhead .expectedMemberOrEnd
  | fuel + 1, first => do
    if ← hasMember first then
      advance
      let name ← b.name
      colon
      let value ← value b fuel
      return (name, value) :: (← members b fuel false)
    else
      advance
      return []

end

/-- Fuel that lasts for any value in the text. -/
def enough (s : List Char) : Nat := 2 * s.length + 2

/-- Reads a string, from behind its opening quote on. -/
def text : Reader String := do return String.ofList (← stringBody)

/-- Keeps everything. -/
def keeping : Builder Json String where
  null := .null
  bool := .bool
  number := number
  string := return .string (← text)
  name := text
  array := .array
  object := .object

/-- Keeps nothing. -/
def skipping : Builder Unit Unit where
  null := ()
  bool _ := ()
  number _ := skipNumber
  string := skipString
  name := skipString
  array _ := ()
  object _ := ()

/-- Reads a value. -/
def tree : Reader Json := fun s => value keeping (enough s) s

/-- Passes over a value. -/
def skip : Reader Unit := fun s => value skipping (enough s) s

end Reader

/-- The value that the text writes. -/
def ofText (text : List Char) : Except Error Json := read Reader.tree text

end GrowthScan.Json
