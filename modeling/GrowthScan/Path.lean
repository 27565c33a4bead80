/-!
# Paths

A path names a place by parts between slashes. Empty parts and `.` name no new place.
-/

namespace GrowthScan.Path

/-- The parts that lead somewhere. -/
def parts (path : String) : List String :=
  ((path.toList.splitOn '/').filter fun p => !p.isEmpty && p ≠ ['.']).map String.ofList

/-- The name of the file or directory, unless the path ends by going up or leads nowhere. -/
def fileName? (path : String) : Option String := do
  let last ← (parts path).getLast?
  if last = ".." then none else some last

/-- What follows the last dot of a name that does not start with its only dot. -/
def nameExtension? (name : String) : Option String :=
  let pieces := name.toList.splitOn '.'
  match pieces.getLast?, pieces.dropLast with
  | some _, [] => none
  | some _, [[]] => none
  | some last, _ => some (String.ofList last)
  | none, _ => none

/-- The extension of the file that a path names. -/
def extension? (path : String) : Option String := (fileName? path).bind nameExtension?

/-- The path of something in a directory. -/
def join (dir name : String) : String :=
  if dir.isEmpty || dir.toList.getLast? = some '/' then dir ++ name else dir ++ "/" ++ name

/-- The text without the slashes and `.` parts at its front. -/
def dropLeadingHere : List Char → List Char
  | '/' :: s => dropLeadingHere s
  | '.' :: '/' :: s => dropLeadingHere s
  | ['.'] => []
  | s => s

/-- The reversed text without the slashes and `.` parts at its front. -/
def dropTrailingHere : List Char → List Char
  | '/' :: s => dropTrailingHere s
  | '.' :: '/' :: s => dropTrailingHere s
  | s => s

/-- A path that starts with the part `.`, without it; any other path as it is. -/
def withoutHere (path : String) : String :=
  match path.toList with
  | ['.'] => ""
  | '.' :: '/' :: s =>
    String.ofList (dropTrailingHere (dropLeadingHere s).reverse).reverse
  | _ => path

end GrowthScan.Path
