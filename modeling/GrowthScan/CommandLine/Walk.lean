import GrowthScan.Settings

/-!
# Walking directories

A walk finds the source files below a directory, entries of one directory in the order of their
names. What is ignored is left out with all that is below it, where paths are taken relative to the
start of the walk. Links are not followed.
-/

namespace GrowthScan

/-- A source file that was found, and its language. -/
structure SourceFile where
  path : String
  language : Language
  deriving DecidableEq

/-- The items in the order of their names. -/
def sortByName (items : List (String × α)) : List (String × α) :=
  items.mergeSort fun a b => a.1 ≤ b.1

namespace Entry

mutual

/-- The source files at and below an entry at a path, which is `relative` to the start. -/
def sourceFiles (globs : List Glob) (path relative : String) : Entry → List SourceFile
  | file _ =>
    if isIgnored globs relative then []
    else (Language.ofPath? path).toList.map fun language => ⟨path, language⟩
  | directory entries =>
    if isIgnored globs relative then []
    else (sortByName (filesByName globs path relative entries)).flatMap (·.2)
  | other => []

/-- The source files at and below each entry of a directory, by its name. -/
def filesByName (globs : List Glob) (path relative : String) :
    List (String × Entry) → List (String × List SourceFile)
  | [] => []
  | (name, entry) :: entries =>
    (name, sourceFiles globs (Path.join path name) (Path.join relative name) entry) ::
      filesByName globs path relative entries

end

end Entry

/-- The source files below a directory at a path. -/
def walk (globs : List Glob) (path : String) (root : Entry) : List SourceFile :=
  root.sourceFiles globs path ""

end GrowthScan
