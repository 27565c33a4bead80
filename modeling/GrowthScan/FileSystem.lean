import GrowthScan.Disk
import GrowthScan.Settings

/-!
# File systems in memory

A tree of files, directories and symbolic links, with a working directory. Paths are resolved part
by part: links are followed, `..` leads to the directory that holds the one reached so far, and a
slash at the end asks for a directory.
-/

namespace GrowthScan

/-- What a name in a directory stands for. -/
inductive Node where
  | file (content : ByteArray)
  | directory (entries : List (String × Node))
  | link (target : String)

namespace Node

/-- What stands at a place below the node. -/
def at? : List String → Node → Option Node
  | [], node => some node
  | name :: names, directory entries => (entries.lookup name).bind (at? names)
  | _ :: _, _ => none

/-- The entries with this one put in, in place of one of the same name. -/
def putEntry (name : String) (node : Node) : List (String × Node) → List (String × Node)
  | [] => [(name, node)]
  | (n, old) :: entries =>
    if n = name then (name, node) :: entries else (n, old) :: putEntry name node entries

/-- The node with another one put at a place below it. Directories on the way are made. -/
def put (new : Node) : List String → Node → Node
  | [], _ => new
  | name :: names, node =>
    let entries := match node with
      | directory entries => entries
      | _ => []
    directory (putEntry name (put new names ((entries.lookup name).getD (directory []))) entries)

mutual

/-- What a program sees of a node whose links are not followed. -/
def entry : Node → Entry
  | file content => .file (.ok content)
  | directory entries => .directory (entriesOf entries)
  | link _ => .other

/-- What a program sees of the entries of a directory. -/
def entriesOf : List (String × Node) → List (String × Entry)
  | [] => []
  | (name, node) :: entries => (name, node.entry) :: entriesOf entries

end

end Node

structure FileSystem where
  root : Node
  /-- The place of the working directory. -/
  workDir : List String

namespace FileSystem

/-- Where a path leads. -/
inductive Place where
  | found (place : List String)
  /-- Nothing is there yet, but its directory exists. -/
  | vacant (place : List String)

/-- The parts of a path that are looked up one after another. A slash at the end counts as `.`. -/
def steps (path : String) : List String :=
  let parts := (path.toList.splitOn '/').filter (!·.isEmpty)
  (if path.toList.getLast? = some '/' then parts ++ [['.']] else parts).map String.ofList

/-- The place where a path starts. -/
def origin (here : List String) (path : String) : List String :=
  if path.toList.head? = some '/' then [] else here

/-- The longest name of a file. -/
def longestName : Nat := 255

/-- The longest path. -/
def longestPath : Nat := 4095

/-- How many links may be followed. -/
def mostLinks : Nat := 40

/-- Looks up the steps of a path from a place on; `links` more links may be followed. Each round
takes a step or follows a link, and `fuel` bounds their number. -/
def lookUp (fs : FileSystem) : Nat → Nat → List String → List String → Except FileError Place
  | _, _, here, [] => .ok (.found here)
  | 0, _, _, _ :: _ => .error .tooManyLinks
  | fuel + 1, links, here, step :: more =>
    match fs.root.at? here with
    | some (.directory entries) =>
      if step = "." then fs.lookUp fuel links here more
      else if step = ".." then fs.lookUp fuel links here.dropLast more
      else if longestName < step.utf8ByteSize then .error .nameTooLong
      else
        match entries.lookup step with
        | none => if more.isEmpty then .ok (.vacant (here ++ [step])) else .error .notFound
        | some (.link target) =>
          match links with
          | 0 => .error .tooManyLinks
          | links + 1 =>
            if target.isEmpty then .error .notFound
            else fs.lookUp fuel links (origin here target) (steps target ++ more)
        | some _ => fs.lookUp fuel links (here ++ [step]) more
    | _ => .error .notDirectory

/-- The place that a path leads to. -/
def locate (fs : FileSystem) (path : String) : Except FileError Place :=
  if path.toList.contains '\x00' then .error .invalidPath
  else if path.isEmpty then .error .notFound
  else if longestPath < path.utf8ByteSize then .error .nameTooLong
  else
    let rounds := (longestPath + 2) * (mostLinks + 1)
    fs.lookUp rounds mostLinks (origin fs.workDir path) (steps path)

/-- What programs see. -/
def disk (fs : FileSystem) : Disk := fun path => do
  match ← fs.locate path with
  | .vacant _ => .error .notFound
  | .found place =>
    match fs.root.at? place with
    | some node => .ok node.entry
    | none => .error .notFound

/-- The path without slashes at its end, if it has any. -/
def withoutSlash? (path : String) : Option String :=
  if path.toList.getLast? = some '/' then
    some (String.ofList (path.toList.reverse.dropWhile (· = '/')).reverse)
  else none

/-- The place of a file that is written; a slash at the end cannot name one. -/
def placeToWrite (fs : FileSystem) (path : String) : Except FileError (List String) := do
  if let some path := withoutSlash? path then
    unless path.isEmpty do let _ ← fs.locate path
    throw .isDirectory
  match ← fs.locate path with
  | .vacant place => return place
  | .found place =>
    match fs.root.at? place with
    | some (.directory _) => throw .isDirectory
    | _ => return place

/-- The file system after writing a file. -/
def write (fs : FileSystem) (path : String) (content : ByteArray) :
    Except FileError FileSystem := do
  let place ← fs.placeToWrite path
  return { fs with root := Node.put (.file content) place fs.root }

end FileSystem

/-- Writes the settings to a file. -/
def Settings.save (s : Settings) (fs : FileSystem) (path : String) : Except Error FileSystem :=
  (fs.write path (String.ofList s.toText).toUTF8).mapError .unwritable

end GrowthScan
