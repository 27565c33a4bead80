import GrowthScan.CommandLine.Arguments
import GrowthScan.CommandLine.Walk
import GrowthScan.Report
import GrowthScan.Source

/-!
# Runs of the program

A run analyzes every input and prints the reports. Inputs that fail are told on the error stream and
do not hold up the others. What is logged stands between what is told.
-/

namespace GrowthScan.CommandLine

/-- What a run finds around it. -/
structure Surroundings where
  disk : Disk
  /-- The home directory. -/
  home : String
  /-- The standard input. -/
  stdin : Except FileError (List Char)

/-- What a run leaves behind. -/
structure Outcome where
  code : Nat
  stdout : List Char
  /-- What was told and logged on the error stream. -/
  notices : List Notice

namespace Outcome

/-- What was told on the error stream, which is all of it where nothing is logged. -/
def stderr (o : Outcome) : List Char := o.notices.flatMap Notice.plain

/-- The same with something in front on the error stream. -/
def after (o : Outcome) (front : List Notice) : Outcome := { o with notices := front ++ o.notices }

variable (o : Outcome) (front : List Notice)

@[simp] theorem code_after : (o.after front).code = o.code := rfl

@[simp] theorem stdout_after : (o.after front).stdout = o.stdout := rfl

@[simp] theorem stderr_after :
    (o.after front).stderr = front.flatMap Notice.plain ++ o.stderr :=
  List.flatMap_append

end Outcome

/-- Something to analyze; without a path it is the standard input. -/
structure Input where
  path? : Option String
  language : Language

/-- Why an input has no analysis. -/
inductive InputError where
  | stdin (cause : FileError)
  | source (cause : Error)

namespace InputError

def message : InputError → String
  | stdin cause => "Failed to read standard input: " ++ cause.message
  | source cause => cause.fullMessage

end InputError

/-- The input's name in reports. -/
def Input.label (i : Input) : String := i.path?.getD "<stdin>"

/-- A line of output. -/
def line (s : List Char) : List Char := s ++ ['\n']

/-! ## Inputs -/

/-- What a path of the command line stands for. -/
inductive Operand where
  | inputs (is : List Input)
  /-- Neither a file nor a directory. -/
  | missing (path : String)

/-- What a path stands for. The language asked for wins over the file's own, and that over the
fallback. -/
def operand (disk : Disk) (globs : List Glob) (asked? : Option Language) (fallback : Language)
    (path : String) : Operand :=
  if path = "-" then .inputs [⟨none, asked?.getD fallback⟩]
  else
    match disk path with
    | .ok (.file _) =>
      .inputs [⟨some path, (asked? <|> Language.ofPath? path).getD fallback⟩]
    | .ok (.directory entries) =>
      .inputs ((walk globs path (.directory entries)).map fun f =>
        ⟨some f.path, asked?.getD f.language⟩)
    | _ => .missing path

namespace Operand

def all : Operand → List Input
  | inputs is => is
  | missing _ => []

/-- What is told about a path that stands for nothing. -/
def warning : Operand → List Char
  | inputs _ => []
  | missing path => line ("warning: ".toList ++ path.toList ++ " is not a file or directory".toList)

def notices (o : Operand) : List Notice :=
  match o with
  | inputs _ => []
  | missing _ => [.told o.warning]

end Operand

/-- What the paths stand for. Without any, the standard input is meant, and the patterns of ignored
paths are not looked at. -/
def operands (disk : Disk) (a : Arguments) (s : Settings) : Except Error (List Operand) :=
  if a.paths.isEmpty then .ok [.inputs [⟨none, a.language.getD s.language⟩]]
  else do
    let globs ← s.ignoreGlobs
    return a.paths.map (operand disk globs a.language s.language)

/-! ## Analyses -/

/-- The analysis of an input. -/
def analyze (disk : Disk) (stdin : Except FileError (List Char)) (i : Input) :
    Except InputError (Option Analysis) :=
  match i.path? with
  | some path => (analyzeFile disk path).mapError .source
  | none =>
    match stdin with
    | .error cause => .error (.stdin cause)
    | .ok content => (analyzeSource content i.label).mapError .source

/-- The analyses of the inputs. The standard input is empty once it was read. -/
def analyzeAll (disk : Disk) (stdin : Except FileError (List Char)) :
    List Input → List (Input × Except InputError (Option Analysis))
  | [] => []
  | i :: is =>
    let left := if i.path?.isNone then .ok [] else stdin
    (i, analyze disk stdin i) :: analyzeAll disk left is

/-- The report on an input, if it has one. -/
def report? (c : Ceilings) : Input × Except InputError (Option Analysis) → Option Report
  | (i, .ok (some a)) => some (.new i.label i.language a c)
  | _ => none

/-- What is told about an input that failed. -/
def complaint : Input × Except InputError (Option Analysis) → List Char
  | (i, .error e) => line ("error: ".toList ++ i.label.toList ++ ": ".toList ++ e.message.toList)
  | _ => []

/-- Whether an input failed. -/
def hasFailed : Input × Except InputError (Option Analysis) → Bool
  | (_, .error _) => true
  | _ => false

/-- What is logged while an input is analyzed. -/
def events (disk : Disk) (stdin : Except FileError (List Char)) (i : Input) : List Event :=
  match i.path? with
  | some path => fileEvents disk path i.language
  | none =>
    match stdin with
    | .error _ => []
    | .ok content => sourceEvents content i.label i.language

/-- What the error stream gets to know of a result. -/
def resultNotices (r : Input × Except InputError (Option Analysis)) : List Notice :=
  match r with
  | (i, .ok none) => [.logged (.inputSkipped i.label)]
  | (_, .ok (some _)) => []
  | (_, .error _) => [.told (complaint r)]

/-- What the error stream gets to know of the inputs. The standard input is empty once it was
read. -/
def noticesAll (disk : Disk) (stdin : Except FileError (List Char)) : List Input → List Notice
  | [] => []
  | i :: is =>
    let left := if i.path?.isNone then .ok [] else stdin
    (events disk stdin i).map .logged ++ resultNotices (i, analyze disk stdin i) ++
      noticesAll disk left is

/-! ## Output -/

/-- The columns of the table. -/
def tableWidth : Nat := 80

/-- The lines above the tables. -/
def heading : List Char :=
  line "bigo - Heuristic Complexity Analysis".toList ++ line (List.replicate tableWidth '=')

/-- The reports in a format. -/
def print (format : Format) (quiet : Bool) (reports : List Report) : List Char :=
  match format with
  | .json => line (Report.jsonText reports)
  | .compact => reports.flatMap fun r => line r.compact
  | .pretty =>
    (if quiet then [] else heading) ++
      reports.flatMap fun r => line (r.pretty false tableWidth) ++ ['\n']

/-- The end of a run that cannot go on. -/
def fatal (e : Error) : Outcome :=
  ⟨2, [], [.told (line ("error: ".toList ++ e.fullMessage.toList))]⟩

/-- The settings that count. -/
def settings (s : Surroundings) (a : Arguments) : Except Error Settings :=
  match a.config with
  | some path => Settings.load s.disk path
  | none => Settings.discover s.disk s.home

/-- What is logged of the file that the settings were loaded from, if there is one. -/
def loaded (s : Surroundings) (a : Arguments) : List Notice :=
  (a.config <|> Settings.discover? s.disk s.home ".").toList.map fun path =>
    .logged (.settingsLoaded path)

/-- What the operands come to under the settings. -/
def analyzeOperands (s : Surroundings) (a : Arguments) (settings : Settings)
    (operands : List Operand) : Outcome :=
  let ceilings : Ceilings := ⟨a.maxTime <|> settings.maxTime, a.maxSpace <|> settings.maxSpace⟩
  let format := a.format.getD settings.format
  let inputs := operands.flatMap Operand.all
  let results := analyzeAll s.disk s.stdin inputs
  let reports := results.filterMap (report? ceilings)
  let shown := reports.filter fun r => !a.quiet || r.isViolation
  ⟨if results.any hasFailed || reports.any Report.isViolation then 1 else 0,
   print format a.quiet shown,
   operands.flatMap Operand.notices ++ [.logged (.inputsCollected inputs.length format)] ++
     noticesAll s.disk s.stdin inputs⟩

/-- A run with arguments. -/
def run (s : Surroundings) (a : Arguments) : Outcome :=
  match a.sample with
  | some language => ⟨0, line language.sample.toList, []⟩
  | none =>
    match settings s a with
    | .error e => fatal e
    | .ok settings =>
      match operands s.disk a settings with
      | .error e => (fatal e).after (loaded s a)
      | .ok operands => (analyzeOperands s a settings operands).after (loaded s a)

/-- The error stream of a run, as the logger writes it. -/
def errorStream (logger : Logger) (s : Surroundings) (a : Arguments) : List Char :=
  logger.stream a.verbose (run s a).notices

end GrowthScan.CommandLine
