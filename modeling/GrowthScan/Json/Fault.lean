import GrowthScan.Json.Basic
import GrowthScan.Text.Quoted

/-!
# What may be wrong with a JSON text

A text may end too early, break the rules of JSON, or hold a value that is not of the kind asked
for. `Fault.message` words each fault and `Fault.category` sorts them.
-/

namespace GrowthScan.Json

/-- What a text may end inside of. -/
inductive Part where
  | list
  | object
  | string
  | value

/-- The kinds of value that messages tell apart. -/
inductive Found where
  | null
  | bool (b : Bool)
  | integer (n : Int)
  | float (x : Float)
  | string (s : List Char)
  | sequence
  | map

inductive Fault where
  /-- The text ends inside of something. -/
  | endsInside (part : Part)
  | expectedColon
  | expectedItemOrEnd
  | expectedMemberOrEnd
  | expectedWord
  | expectedValue
  | invalidEscape
  | invalidNumber
  | numberOutOfRange
  | controlCharacter
  | keyNotString
  /-- Half of a pair of surrogates. -/
  | loneSurrogate
  /-- Another escape had to follow. -/
  | endOfEscape
  | trailingComma
  | trailingCharacters
  /-- A value of the wrong kind. -/
  | wrongKind (found : Found) (expected : String)
  /-- An object where only some objects will do. -/
  | wrongObject (expected : String)
  | wrongLength (found : Nat) (expected : String)
  | missingMember (name : String)
  | repeatedMember (name : String)
  | unknownOption (name : String) (options : List String)
  /-- A value of the right kind that means nothing. -/
  | refused (reason : String)

/-- The sorts of faults. -/
inductive Category where
  /-- The text ends too early. -/
  | incomplete
  /-- The text is no JSON. -/
  | malformed
  /-- The value is not what was asked for. -/
  | unsuitable
  deriving DecidableEq

namespace Part

def name : Part → String
  | list => "a list"
  | object => "an object"
  | string => "a string"
  | value => "a value"

end Part

namespace Found

def message : Found → String
  | null => "null"
  | bool b => "boolean `" ++ toString b ++ "`"
  | integer n => "integer `" ++ toString n ++ "`"
  | float x => "floating point `" ++ String.ofList (floatText x) ++ "`"
  | string s => "string " ++ String.ofList (Text.quoted s)
  | sequence => "sequence"
  | map => "map"

end Found

namespace Fault

/-- The options as a choice in words. -/
def choice (options : List String) : String :=
  match options.map fun o => "`" ++ o ++ "`" with
  | [] => "there are no variants"
  | [a] => "expected " ++ a
  | [a, b] => "expected " ++ a ++ " or " ++ b
  | many => "expected one of " ++ ", ".intercalate many

def message : Fault → String
  | endsInside part => "EOF while parsing " ++ part.name
  | expectedColon => "expected `:`"
  | expectedItemOrEnd => "expected `,` or `]`"
  | expectedMemberOrEnd => "expected `,` or `\x7d`"
  | expectedWord => "expected ident"
  | expectedValue => "expected value"
  | invalidEscape => "invalid escape"
  | invalidNumber => "invalid number"
  | numberOutOfRange => "number out of range"
  | controlCharacter => "control character (\\u0000-\\u001F) found while parsing a string"
  | keyNotString => "key must be a string"
  | loneSurrogate => "lone leading surrogate in hex escape"
  | endOfEscape => "unexpected end of hex escape"
  | trailingComma => "trailing comma"
  | trailingCharacters => "trailing characters"
  | wrongKind found expected => "invalid type: " ++ found.message ++ ", expected " ++ expected
  | wrongObject expected => "invalid value: map, expected " ++ expected
  | wrongLength found expected => "invalid length " ++ toString found ++ ", expected " ++ expected
  | missingMember name => "missing field `" ++ name ++ "`"
  | repeatedMember name => "duplicate field `" ++ name ++ "`"
  | unknownOption name options => "unknown variant `" ++ name ++ "`, " ++ choice options
  | refused reason => reason

def category : Fault → Category
  | endsInside _ => .incomplete
  | expectedColon | expectedItemOrEnd | expectedMemberOrEnd | expectedWord | expectedValue
  | invalidEscape | invalidNumber | numberOutOfRange | controlCharacter | keyNotString
  | loneSurrogate | endOfEscape | trailingComma | trailingCharacters => .malformed
  | wrongKind .. | wrongObject .. | wrongLength .. | missingMember .. | repeatedMember ..
  | unknownOption .. | refused .. => .unsuitable

end Fault

/-- A place in a text: its line, counted from one, and the bytes in front of it on that line. -/
structure Position where
  line : Nat
  column : Nat

/-- A fault and, where it belongs to a place in a text, that place. -/
structure Error where
  fault : Fault
  position? : Option Position

namespace Error

def message (e : Error) : String :=
  match e.position? with
  | none => e.fault.message
  | some p => e.fault.message ++ " at line " ++ toString p.line ++ " column " ++ toString p.column

end Error

end GrowthScan.Json
