import GrowthScan.Disk
import GrowthScan.Glob.Basic
import GrowthScan.Json.Fault

/-!
# Errors

What may go wrong at the edges of the program. The analysis itself never fails.
-/

namespace GrowthScan

inductive Error where
  /-- A file that cannot be read. -/
  | unreadable (path : String) (cause : FileError)
  /-- A file that cannot be written. -/
  | unwritable (cause : FileError)
  | settings (cause : Json.Error)
  | ignorePattern (cause : Glob.Error)
  | unknownGrowth (label : String)
  | unknownLanguage (name : String)
  /-- Nothing but blanks is left to analyze. -/
  | emptySource (origin : String)

namespace Error

def message : Error → String
  | unreadable path cause => "Failed to read " ++ path ++ ": " ++ cause.message
  | unwritable cause => "I/O error: " ++ cause.message
  | settings cause => "Invalid configuration: " ++ cause.message
  | ignorePattern cause =>
    "Invalid ignore pattern '" ++ cause.pattern ++ "': " ++ cause.message
  | unknownGrowth label =>
    "Unknown complexity class '" ++ label ++
      "' (expected e.g. O(1), O(log n), O(n), O(n log n), O(n^2), O(n^3), O(2^n))"
  | unknownLanguage name =>
    "Unsupported language '" ++ name ++ "' (expected one of: java, python, c, cpp)"
  | emptySource origin => "No code to analyze in " ++ origin

/-- What lies beneath the error. -/
def cause? : Error → Option String
  | unreadable _ cause => some cause.message
  | unwritable cause => some cause.message
  | settings cause => some cause.message
  | _ => none

/-- The error with what lies beneath it, which its own message names too. -/
def fullMessage (e : Error) : String :=
  match e.cause? with
  | none => e.message
  | some cause => e.message ++ ": " ++ cause

end Error

end GrowthScan
