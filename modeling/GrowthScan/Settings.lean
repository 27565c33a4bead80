import GrowthScan.Analysis.Json
import GrowthScan.Disk
import GrowthScan.Glob.Match
import GrowthScan.Glob.Parser
import GrowthScan.Language

/-!
# Settings

Ceilings, defaults for the output and the paths that a walk leaves out. They are kept in a JSON
file, in which every member may be missing.
-/

namespace GrowthScan

/-- How reports are printed. -/
inductive Format where
  | pretty
  | json
  | compact
  deriving DecidableEq, Inhabited

namespace Format

def all : List Format := [pretty, json, compact]

def id : Format → String
  | pretty => "pretty"
  | json => "json"
  | compact => "compact"

/-- The format with this identifier. -/
def ofId? (id : String) : Option Format := all.find? fun f => f.id == id

end Format

structure Settings where
  /-- The language of what no file extension tells. -/
  language : Language
  format : Format
  maxTime : Option Growth
  maxSpace : Option Growth
  /-- Patterns of the paths that a walk leaves out. -/
  ignore : List String
  deriving DecidableEq

namespace Settings

/-- The paths that are left out unless the settings tell others. -/
def usualIgnore : List String :=
  ["target/**", "node_modules/**", "build/**", "dist/**", ".git/**"]

/-- The settings where no file has any. -/
def usual : Settings := ⟨.java, .pretty, none, none, usualIgnore⟩

/-! ## JSON -/

/-- The members of the settings that were met. -/
structure Partial where
  language? : Option Language
  format? : Option Format
  maxTime? : Option (Option Growth)
  maxSpace? : Option (Option Growth)
  ignore? : Option (List String)

section

open Json (Source)

variable {m : Type → Type} [Monad m] [Source m]

/-- How settings are read. What is missing is as usual. -/
def layout : Json.Record m Partial Settings where
  name := "struct Config"
  fields :=
    [⟨"default_language", (·.language?.isSome),
        fun p => do
          let options := Language.all.map fun l => (l.id, l)
          return { p with language? := some (← Source.choice options) }⟩,
     ⟨"format", (·.format?.isSome),
        fun p => do
          let options := Format.all.map fun f => (f.id, f)
          return { p with format? := some (← Source.choice options) }⟩,
     ⟨"max_time", (·.maxTime?.isSome),
        fun p => do return { p with maxTime? := some (← Source.orNull Growth.ofSource) }⟩,
     ⟨"max_space", (·.maxSpace?.isSome),
        fun p => do return { p with maxSpace? := some (← Source.orNull Growth.ofSource) }⟩,
     ⟨"ignore", (·.ignore?.isSome),
        fun p => do return { p with ignore? := some (← Source.list Source.string) }⟩]
  start := ⟨none, none, none, none, none⟩
  finish p := .ok
    { language := p.language?.getD usual.language
      format := p.format?.getD usual.format
      maxTime := p.maxTime?.getD usual.maxTime
      maxSpace := p.maxSpace?.getD usual.maxSpace
      ignore := p.ignore?.getD usual.ignore }

def ofSource : m Settings := Source.record layout

end

def toJson (s : Settings) : Json :=
  .object [("default_language", .string s.language.id), ("format", .string s.format.id),
    ("max_time", s.maxTime.elim .null Growth.toJson),
    ("max_space", s.maxSpace.elim .null Growth.toJson), ("ignore", .strings s.ignore)]

/-- The settings that a JSON text writes. -/
def ofText (text : List Char) : Except Error Settings :=
  (Json.read ofSource text).mapError .settings

/-- The settings that a JSON tree stands for. -/
def ofJson (v : Json) : Except Error Settings := (Json.decode ofSource v).mapError .settings

/-- The text that is saved. -/
def toText (s : Settings) : List Char := Json.pretty s.toJson

/-! ## Files -/

/-- The settings in the file at a path. -/
def load (disk : Disk) (path : String) : Except Error Settings :=
  match disk.readText path with
  | .error cause => .error (.unreadable path cause)
  | .ok text => ofText text

/-- The places of settings below a directory, the first one that exists wins. -/
def places : List String := [".bigo.json", "bigo.json", ".bigo/config.json"]

/-- The place of a user's own settings below the home directory. -/
def userPlace : String := ".config/bigo/config.json"

/-- The path of the settings file that counts for a directory. -/
def discover? (disk : Disk) (home dir : String) : Option String :=
  (places.map (Path.join dir) ++ [Path.join home userPlace]).find? disk.isFile

/-- The settings that count for the working directory. -/
def discover (disk : Disk) (home : String) : Except Error Settings :=
  match discover? disk home "." with
  | some path => load disk path
  | none => .ok usual

/-! ## Ignored paths -/

/-- The patterns of ignored paths. -/
def ignoreGlobs (s : Settings) : Except Error (List Glob) :=
  s.ignore.mapM fun pattern => (Glob.ofText pattern).mapError .ignorePattern

end Settings

/-- Whether some pattern describes the path, which may start with the part `.`. -/
def isIgnored (globs : List Glob) (path : String) : Bool :=
  globs.any (·.isMatch (Path.withoutHere path))

end GrowthScan
