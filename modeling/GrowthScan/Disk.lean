import GrowthScan.Path

/-!
# What a path leads to

The program sees the disk as a function from paths to what stands there. Links on the way to a path
are followed; links among the entries of a directory are only listed.
-/

namespace GrowthScan

/-- Why a file or directory cannot be used. -/
inductive FileError where
  | notFound
  | notDirectory
  | isDirectory
  | nameTooLong
  | tooManyLinks
  /-- Its bytes are not UTF-8. -/
  | notText
  /-- The path holds a NUL character. -/
  | invalidPath
  /-- A refusal of the system by its number. -/
  | system (text : String) (code : Nat)
  deriving DecidableEq

namespace FileError

def message : FileError → String
  | notFound => "No such file or directory (os error 2)"
  | notDirectory => "Not a directory (os error 20)"
  | isDirectory => "Is a directory (os error 21)"
  | nameTooLong => "File name too long (os error 36)"
  | tooManyLinks => "Too many levels of symbolic links (os error 40)"
  | notText => "stream did not contain valid UTF-8"
  | invalidPath => "file name contained an unexpected NUL byte"
  | system text code => text ++ " (os error " ++ toString code ++ ")"

end FileError

/-- The text that the bytes encode. -/
def textOfBytes (bytes : ByteArray) : Except FileError (List Char) :=
  match String.fromUTF8? bytes with
  | some s => .ok s.toList
  | none => .error .notText

/-- What stands at a path. -/
inductive Entry where
  /-- A regular file, or why it cannot be read. -/
  | file (content : Except FileError ByteArray)
  /-- A directory with what its names stand for. -/
  | directory (entries : List (String × Entry))
  /-- Anything else, such as a link that is not followed. -/
  | other

namespace Entry

def isFile : Entry → Bool
  | file _ => true
  | _ => false

def isDirectory : Entry → Bool
  | directory _ => true
  | _ => false

/-- The text of a file. -/
def readText : Entry → Except FileError (List Char)
  | file content => content.bind textOfBytes
  | directory _ => .error .isDirectory
  | other => .error .notFound

mutual

/-- The entry at a path and those below it, by their paths. -/
def withPaths (path : String) : Entry → List (String × Entry)
  | directory entries => (path, directory entries) :: withPathsBelow path entries
  | e => [(path, e)]

/-- The entries in a directory at a path and those below them, by their paths. -/
def withPathsBelow (path : String) : List (String × Entry) → List (String × Entry)
  | [] => []
  | (name, e) :: entries =>
    withPaths (Path.join path name) e ++ withPathsBelow path entries

end

end Entry

/-- What each path leads to. -/
abbrev Disk := String → Except FileError Entry

namespace Disk

/-- The disk on which only these paths lead anywhere. -/
def ofList (entries : List (String × Except FileError Entry)) : Disk := fun path =>
  (entries.lookup path).getD (.error .notFound)

/-- The text of the file at a path. -/
def readText (disk : Disk) (path : String) : Except FileError (List Char) :=
  (disk path).bind Entry.readText

/-- Whether the path leads to a regular file. -/
def isFile (disk : Disk) (path : String) : Bool := (disk path).toOption.any Entry.isFile

end Disk

end GrowthScan
