import GrowthScan.CommandLine.Run

/-!
# The program

Reads what a run may look at, runs, and prints. Output is never coloured.
-/

namespace GrowthScan.CommandLine

/-- What is told about wrong arguments. -/
def UsageError.message : UsageError → String
  | .unknownArgument => "error: unexpected argument"
  | .invalidValue => "error: missing or invalid value"
  | .refusedValue => "error: not a complexity class"
  | .repeatedOption => "error: an option cannot be used multiple times"
  | .unneededValue => "error: a flag takes no value"
  | .help => "Estimate the time and space complexity of code snippets"
  | .version => "bigo 0.3.0"

/-- How the program is used. -/
def usage : List String :=
  ["Usage: bigo [OPTIONS] [PATH]...",
   "",
   "  -l, --language <LANGUAGE>  java, python, c or cpp",
   "  -f, --format <FORMAT>      pretty, json or compact",
   "      --max-time <CLASS>     fail when time complexity is worse",
   "      --max-space <CLASS>    fail when space complexity is worse",
   "  -c, --config <FILE>        configuration file path",
   "  -q, --quiet                only show inputs that exceed a ceiling",
   "  -v, --verbose              enable debug logging on stderr",
   "      --sample <LANG>        print a sample snippet and exit"]

/-- The refusal of the system. -/
def fileErrorOf : IO.Error → FileError
  | .noFileOrDirectory .. => .notFound
  | .alreadyExists _ code text | .invalidArgument _ code text | .permissionDenied _ code text
  | .resourceExhausted _ code text | .inappropriateType _ code text | .noSuchThing _ code text
  | .interrupted _ code text | .otherError code text | .resourceBusy code text
  | .resourceVanished code text | .unsupportedOperation code text | .hardwareFault code text
  | .unsatisfiedConstraints code text | .illegalOperation code text | .protocolError code text
  | .timeExpired code text =>
    match code.toNat with
    | 20 => .notDirectory
    | 21 => .isDirectory
    | 36 => .nameTooLong
    | 40 => .tooManyLinks
    | n => .system text n
  | e => .system (toString e) 0

/-- The content of a file, or why it cannot be read. -/
def contentOf (path : String) : IO (Except FileError ByteArray) := do
  try return .ok (← IO.FS.readBinFile path)
  catch e => return .error (fileErrorOf e)

/-- What stands below a directory that can be listed. -/
partial def load (path : String) : IO Entry := do
  let place ← IO.FS.realPath path
  match (← place.metadata).type with
  | .file => return .file (← contentOf path)
  | .dir =>
    let mut entries := []
    for e in (← try place.readDir catch _ => pure #[]) do
      let entry ← match (← e.path.symlinkMetadata).type with
        | .symlink | .other => pure Entry.other
        | _ => try load e.path.toString catch _ => pure Entry.other
      entries := (e.fileName, entry) :: entries
    return .directory entries
  | _ => return .other

/-- The parts of the disk that the paths lead to. -/
def loadDisk (paths : List String) : IO Disk := do
  let mut known := []
  for path in paths do
    let found ← try
        pure (((← load path).withPaths path).map fun (p, e) => (p, .ok e))
      catch e => pure [(path, .error (fileErrorOf e))]
    known := known ++ found
  return .ofList known

/-- Reads a stream to its end. -/
partial def readAll (input : IO.FS.Stream) (front : ByteArray) : IO ByteArray := do
  let more ← input.read 65536
  if more.isEmpty then return front else readAll input (front ++ more)

/-- Writes the lines of the log without the time. -/
def logger : Logger := ⟨none, fun _ e => line e.text⟩

end GrowthScan.CommandLine

open GrowthScan GrowthScan.CommandLine in
def main (words : List String) : IO UInt32 := do
  match Arguments.ofWords words with
  | .error e =>
    if e.exitCode = 0 then IO.println e.message else IO.eprintln e.message
    if e = .help then usage.forM IO.println
    return UInt32.ofNat e.exitCode
  | .ok a =>
    let home := (← IO.getEnv "HOME").getD ""
    let places := Settings.places.map (Path.join ".") ++ [Path.join home Settings.userPlace]
    let disk ← loadDisk (a.paths.filter (· ≠ "-") ++ a.config.toList ++ places)
    let readsInput := a.sample.isNone && (a.paths.isEmpty || a.paths.contains "-")
    let stdin ← if readsInput then
        try pure (textOfBytes (← readAll (← IO.getStdin) .empty))
        catch e => pure (.error (fileErrorOf e))
      else pure (.ok [])
    let outcome := run ⟨disk, home, stdin⟩ a
    IO.print (String.ofList outcome.stdout)
    IO.eprint (String.ofList (logger.stream a.verbose outcome.notices))
    return UInt32.ofNat outcome.code
