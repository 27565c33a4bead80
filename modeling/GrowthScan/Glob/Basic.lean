/-!
# Glob patterns

A pattern describes whole paths: `?` stands for one byte, `*` for any bytes, `[…]` for a byte of a
class, `{…,…}` for any of several patterns, and a backslash takes the next character as it is. A
part `**` of a path stands for any number of parts.
-/

namespace GrowthScan

/-- What a pattern consists of. -/
inductive Glob.Token where
  | literal (c : Char)
  /-- Any byte. -/
  | any
  /-- Any bytes. -/
  | star
  /-- A `**/` at the front: nothing or whole parts. -/
  | deepFront
  /-- A `/**` at the end: a slash and what follows. -/
  | deepBack
  /-- A `/**/` in between: a slash, or whole parts between two slashes. -/
  | deep
  /-- A byte of one of the ranges, or of none if `negated`. -/
  | oneOf (negated : Bool) (ranges : List (Char × Char))
  | either (branches : List (List Glob.Token))

/-- A pattern that has been read. -/
structure Glob where
  tokens : List Glob.Token

namespace Glob

/-- What may be wrong with a pattern. -/
inductive Fault where
  | unclosedClass
  | invalidRange (first last : Char)
  | unopenedGroup
  | unclosedGroup
  | danglingEscape

/-- A pattern that cannot be read. -/
structure Error where
  pattern : String
  fault : Fault

namespace Fault

def message : Fault → String
  | unclosedClass => "unclosed character class; missing ']'"
  | invalidRange first last =>
    "invalid range; '" ++ first.toString ++ "' > '" ++ last.toString ++ "'"
  | unopenedGroup =>
    "unopened alternate group; missing '\x7b' (maybe escape '\x7d' with '[\x7d]'?)"
  | unclosedGroup =>
    "unclosed alternate group; missing '\x7d' (maybe escape '\x7b' with '[\x7b]'?)"
  | danglingEscape => "dangling '\\'"

end Fault

namespace Error

def message (e : Error) : String :=
  "error parsing glob '" ++ e.pattern ++ "': " ++ e.fault.message

end Error

end Glob

end GrowthScan
