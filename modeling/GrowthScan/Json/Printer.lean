import GrowthScan.Json.Basic
import GrowthScan.Text.Quoted

/-!
# Writing JSON

A string is quoted with the short escapes where there are any; other control characters are
written by number, and all else stands for itself. `compact` writes no blanks; `pretty` puts each
item and member on a line of its own, two spaces further in than its container, and writes an
empty container as its two brackets.
-/

namespace GrowthScan.Json

/-- A character as it stands in a JSON string. -/
def escaped : Char → List Char
  | '"' => ['\\', '"']
  | '\\' => ['\\', '\\']
  | '\x08' => ['\\', 'b']
  | '\x0c' => ['\\', 'f']
  | '\n' => ['\\', 'n']
  | '\r' => ['\\', 'r']
  | '\t' => ['\\', 't']
  | c =>
    if c.toNat < 0x20 then ['\\', 'u', '0', '0'] ++ (if c.toNat < 0x10 then ['0'] else []) ++
      Text.hex c.toNat
    else [c]

/-- The string between quotes. -/
def quote (s : String) : List Char := ['"'] ++ s.toList.flatMap escaped ++ ['"']

/-- A value that holds no others, or an empty container. -/
def scalar : Json → List Char
  | null => "null".toList
  | bool true => "true".toList
  | bool false => "false".toList
  | integer n => (toString n).toList
  | float x => floatText x
  | string s => quote s
  | array _ => ['[', ']']
  | object _ => ['{', '}']

mutual

/-- The value without any blanks. -/
def compact : Json → List Char
  | array (item :: items) => ['['] ++ compact item ++ compactItems items
  | object ((name, value) :: members) =>
    ['{'] ++ quote name ++ [':'] ++ compact value ++ compactMembers members
  | v => scalar v

/-- The further items of an array and its end. -/
def compactItems : List Json → List Char
  | [] => [']']
  | item :: items => [','] ++ compact item ++ compactItems items

/-- The further members of an object and its end. -/
def compactMembers : List (String × Json) → List Char
  | [] => ['}']
  | (name, value) :: members =>
    [','] ++ quote name ++ [':'] ++ compact value ++ compactMembers members

end

/-- The start of a line at this depth. -/
def newLine (depth : Nat) : List Char := '\n' :: List.replicate (2 * depth) ' '

mutual

/-- The value with each item and member on its own line, at some depth of nesting. -/
def prettyAt (depth : Nat) : Json → List Char
  | array (item :: items) =>
    ['['] ++ newLine (depth + 1) ++ prettyAt (depth + 1) item ++ prettyItems depth items
  | object ((name, value) :: members) =>
    ['{'] ++ newLine (depth + 1) ++ quote name ++ [':', ' '] ++ prettyAt (depth + 1) value ++
      prettyMembers depth members
  | v => scalar v

/-- The further items of an array at this depth and its end. -/
def prettyItems (depth : Nat) : List Json → List Char
  | [] => newLine depth ++ [']']
  | item :: items =>
    [','] ++ newLine (depth + 1) ++ prettyAt (depth + 1) item ++ prettyItems depth items

/-- The further members of an object at this depth and its end. -/
def prettyMembers (depth : Nat) : List (String × Json) → List Char
  | [] => newLine depth ++ ['}']
  | (name, value) :: members =>
    [','] ++ newLine (depth + 1) ++ quote name ++ [':', ' '] ++ prettyAt (depth + 1) value ++
      prettyMembers depth members

end

/-- The value on as many lines as it has items and members. -/
def pretty (v : Json) : List Char := prettyAt 0 v

end GrowthScan.Json
