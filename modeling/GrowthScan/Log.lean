import GrowthScan.Analysis
import GrowthScan.Settings
import GrowthScan.Text.Quoted

/-!
# The log

What the program does on the way is logged as events between what it tells on the error stream.
Unless the environment asks for other events, warnings are written and what is worse, and all but
the finest events if the program is to tell what it does. No event is a warning.

How a line looks, and the time that it starts with, is up to the logger.
-/

namespace GrowthScan

/-- How much an event matters. -/
inductive Level where
  | trace
  | debug
  | info
  | warning
  deriving DecidableEq

namespace Level

/-- The more an event matters, the greater. -/
def severity : Level → Nat
  | trace => 0
  | debug => 1
  | info => 2
  | warning => 3

/-- The name in a line of the log, five columns wide. -/
def label : Level → String
  | trace => "TRACE"
  | debug => "DEBUG"
  | info => " INFO"
  | warning => " WARN"

/-- The least level that is written. -/
def least (verbose : Bool) : Level := if verbose then debug else warning

end Level

/-- The name of a format in the log. -/
def Format.name : Format → String
  | .pretty => "Pretty"
  | .json => "Json"
  | .compact => "Compact"

/-- Something that is logged. -/
inductive Event where
  | settingsLoaded (path : String)
  | inputsCollected (count : Nat) (format : Format)
  /-- The whole of a source is ignored. -/
  | sourceIgnored (origin : String)
  /-- So there is no report on the input. -/
  | inputSkipped (label : String)
  | algorithmRecognized (operation : String)
  | loopsScanned (nest : LoopNest)
  | libraryCallFound (name : String)
  | analyzed (language : Language) (time space : Growth) (findings : Nat)
  deriving DecidableEq

namespace Event

def level : Event → Level
  | libraryCallFound .. => .trace
  | inputSkipped .. => .info
  | _ => .debug

/-- The part of the program that logs the event. -/
def target : Event → String
  | settingsLoaded .. => "bigo::config"
  | algorithmRecognized .. => "bigo::patterns"
  | loopsScanned .. => "bigo::loops"
  | libraryCallFound .. => "bigo::builtins"
  | analyzed .. => "bigo::analyzer"
  | inputsCollected .. | sourceIgnored .. | inputSkipped .. => "bigo"

def message : Event → String
  | settingsLoaded .. => "loaded configuration"
  | inputsCollected .. => "collected inputs"
  | sourceIgnored .. => "ignored by directive"
  | inputSkipped .. => "skipped by ignore directive"
  | algorithmRecognized .. => "algorithm signature matched"
  | loopsScanned .. => "loop nesting scanned"
  | libraryCallFound .. => "builtin operation found"
  | analyzed .. => "analysis complete"

/-- What the event tells, by name. -/
def fields : Event → List (String × List Char)
  | settingsLoaded path => [("path", path.toList)]
  | inputsCollected count format =>
    [("inputs", count.repr.toList), ("format", format.name.toList)]
  | sourceIgnored origin => [("origin", Text.quoted origin.toList)]
  | inputSkipped label => [("path", label.toList)]
  | algorithmRecognized operation => [("operation", Text.quoted operation.toList)]
  | loopsScanned nest =>
    [("max_depth", nest.depth.repr.toList), ("halving", (toString nest.halving).toList)]
  | libraryCallFound name => [("name", Text.quoted name.toList)]
  | analyzed language time space findings =>
    [("language", language.id.toList), ("time", time.label.toList), ("space", space.label.toList),
      ("findings", findings.repr.toList)]

/-- The text of the event's line, without the time. -/
def text (e : Event) : List Char :=
  e.level.label.toList ++ [' '] ++ e.target.toList ++ ": ".toList ++ e.message.toList ++
    e.fields.flatMap fun f => [' '] ++ f.1.toList ++ ['='] ++ f.2

end Event

/-- What is logged while a snippet in a language is analyzed. -/
def Snippet.events (s : Snippet) (language : Language) : List Event :=
  let recognized := (Algorithm.recognize? s.normalized).toList
  let found := LibraryCall.catalog.filter (·.occursIn s.code)
  let a := s.analysis
  recognized.map (fun algorithm => .algorithmRecognized algorithm.finding.operation) ++
    [.loopsScanned (.ofLines s.lines)] ++ found.map (fun call => .libraryCallFound call.name) ++
    [.analyzed language a.time a.space a.findings.length]

/-- Something for the error stream. -/
inductive Notice where
  /-- A text that is told in any case. -/
  | told (text : List Char)
  | logged (e : Event)
  deriving DecidableEq

/-- The text that is told in any case. -/
def Notice.plain : Notice → List Char
  | told text => text
  | logged _ => []

/-- What writes the log. -/
structure Logger where
  /-- Which events the environment asks for, if it does. -/
  asked? : Option (Event → Bool)
  /-- The line of an event, given the number of the notice. -/
  write : Nat → Event → List Char

namespace Logger

/-- Whether the event is written. -/
def passes (l : Logger) (verbose : Bool) (e : Event) : Bool :=
  match l.asked? with
  | some asks => asks e
  | none => (Level.least verbose).severity ≤ e.level.severity

/-- What the notice of a number comes to. -/
def text (l : Logger) (verbose : Bool) (n : Nat) : Notice → List Char
  | .told text => text
  | .logged e => if l.passes verbose e then l.write n e else []

/-- What the notices come to, one after another. -/
def stream (l : Logger) (verbose : Bool) (notices : List Notice) : List Char :=
  (notices.mapIdx (l.text verbose)).flatten

end Logger

end GrowthScan
