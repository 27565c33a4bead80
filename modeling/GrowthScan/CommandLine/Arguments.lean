import GrowthScan.Settings

/-!
# Command line arguments

Options and flags may stand anywhere among the paths, each at most once; behind `--` there are only
paths. The value of an option is its own argument, or it is attached to the option. A value is
looked at when the next known option, flag or path is met, so an unknown option is refused before
it.
-/

namespace GrowthScan.CommandLine

structure Arguments where
  paths : List String
  language : Option Language
  format : Option Format
  maxTime : Option Growth
  maxSpace : Option Growth
  /-- The settings file to use. -/
  config : Option String
  /-- Whether only reports with violations are shown. -/
  quiet : Bool
  /-- Whether the program tells what it does. -/
  verbose : Bool
  /-- The language whose sample is wanted instead of any analysis. -/
  sample : Option Language
  deriving DecidableEq

/-- Why arguments lead to no run. -/
inductive UsageError where
  | unknownArgument
  /-- A value that is missing, empty or none of the possible ones. -/
  | invalidValue
  /-- A value that is no growth class. -/
  | refusedValue
  /-- An option or flag that was given before. -/
  | repeatedOption
  /-- A value for a flag. -/
  | unneededValue
  | help
  | version
  deriving DecidableEq

/-- The exit code. Asking for help is no failure. -/
def UsageError.exitCode : UsageError → Nat
  | .help | .version => 0
  | _ => 2

/-- What takes a value. -/
inductive Setting where
  | language
  | format
  | maxTime
  | maxSpace
  | config
  | sample
  deriving DecidableEq

inductive Flag where
  | quiet
  | verbose
  | help
  | version
  deriving DecidableEq

/-- What may stand behind a hyphen. -/
inductive Switch where
  | setting (s : Setting)
  | flag (f : Flag)
  deriving DecidableEq

/-- The switches by their long names. -/
def longNames : List (String × Switch) :=
  [("language", .setting .language), ("format", .setting .format),
   ("max-time", .setting .maxTime), ("max-space", .setting .maxSpace),
   ("config", .setting .config), ("sample", .setting .sample), ("quiet", .flag .quiet),
   ("verbose", .flag .verbose), ("help", .flag .help), ("version", .flag .version)]

/-- The switches by their letters. -/
def letters : List (Char × Switch) :=
  [('l', .setting .language), ('f', .setting .format), ('c', .setting .config),
   ('q', .flag .quiet), ('v', .flag .verbose), ('h', .flag .help), ('V', .flag .version)]

namespace Arguments

/-- No arguments. -/
def empty : Arguments := ⟨[], none, none, none, none, none, false, false, none⟩

/-- The value, if it is given for the first time and can be read. -/
def once (old : Option α) (new? : Option α) (fault : UsageError) : Except UsageError (Option α) :=
  if old.isSome then .error .repeatedOption
  else match new? with
    | none => .error fault
    | some new => .ok (some new)

/-- The arguments with the value of a setting. -/
def set (a : Arguments) (s : Setting) (value : String) : Except UsageError Arguments :=
  match s with
  | .language => do
    return { a with language := ← once a.language (Language.ofId? value) .invalidValue }
  | .format => do return { a with format := ← once a.format (Format.ofId? value) .invalidValue }
  | .maxTime => do
    return { a with maxTime := ← once a.maxTime (Growth.ofLabel? value) .refusedValue }
  | .maxSpace => do
    return { a with maxSpace := ← once a.maxSpace (Growth.ofLabel? value) .refusedValue }
  | .config => do
    let path? := if value.isEmpty then none else some value
    return { a with config := ← once a.config path? .invalidValue }
  | .sample => do return { a with sample := ← once a.sample (Language.ofId? value) .invalidValue }

/-- The arguments with a flag. -/
def raise (a : Arguments) : Flag → Except UsageError Arguments
  | .quiet => if a.quiet then .error .repeatedOption else .ok { a with quiet := true }
  | .verbose => if a.verbose then .error .repeatedOption else .ok { a with verbose := true }
  | .help => .error .help
  | .version => .error .version

end Arguments

/-- What was met and not looked at yet. -/
inductive Pending where
  | nothing
  /-- A setting without a value so far. -/
  | missing (s : Setting)
  | value (s : Setting) (value : String)
  | paths (ps : List String)

/-- The arguments so far. -/
structure Progress where
  done : Arguments
  pending : Pending

namespace Progress

/-- The arguments with what is pending. -/
def settle (p : Progress) : Except UsageError Arguments :=
  match p.pending with
  | .nothing => .ok p.done
  | .missing _ => .error .invalidValue
  | .value s value => p.done.set s value
  | .paths ps =>
    if ps.any String.isEmpty then .error .invalidValue
    else .ok { p.done with paths := p.done.paths ++ ps }

/-- With a path. -/
def addPath (p : Progress) (path : String) : Except UsageError Progress :=
  match p.pending with
  | .paths ps => .ok { p with pending := .paths (ps ++ [path]) }
  | _ => do return ⟨← p.settle, .paths [path]⟩

/-- With a flag. -/
def addFlag (p : Progress) (f : Flag) : Except UsageError Progress := do
  let done ← p.settle
  return ⟨← done.raise f, .nothing⟩

/-- With a setting whose value may be attached. -/
def addSetting (p : Progress) (s : Setting) (attached? : Option String) :
    Except UsageError Progress := do
  let done ← p.settle
  match attached? with
  | none => return ⟨done, .missing s⟩
  | some value => return ⟨← done.set s value, .nothing⟩

/-- With the switch of a long name, and what follows its equals sign. -/
def addLong (p : Progress) (text : List Char) : Except UsageError Progress :=
  let name := String.ofList (text.takeWhile (· ≠ '='))
  let attached? := match text.dropWhile (· ≠ '=') with
    | [] => none
    | _ :: value => some (String.ofList value)
  match longNames.lookup name, attached? with
  | none, _ => .error .unknownArgument
  | some (.setting s), attached? => p.addSetting s attached?
  | some (.flag f), none => p.addFlag f
  | some (.flag _), some _ => .error .unneededValue

/-- With the switches of letters; what follows the letter of a setting is its value. -/
def addLetters (p : Progress) : List Char → Except UsageError Progress
  | [] => .ok p
  | c :: cs =>
    match letters.lookup c with
    | none => .error .unknownArgument
    | some (.flag f) =>
      match p.addFlag f with
      | .error e => .error e
      | .ok p => p.addLetters cs
    | some (.setting s) =>
      p.addSetting s (match cs with
        | [] => none
        | '=' :: value => some (String.ofList value)
        | value => some (String.ofList value))

/-- With an argument that may be a switch. -/
def add (p : Progress) (arg : String) : Except UsageError Progress :=
  match arg.toList with
  | '-' :: '-' :: text => p.addLong text
  | '-' :: c :: cs => p.addLetters (c :: cs)
  | _ =>
    match p.pending with
    | .missing s => .ok { p with pending := .value s arg }
    | _ => p.addPath arg

/-- With all of the arguments, which are only paths behind `--`. -/
def addAll (p : Progress) (onlyPaths : Bool) : List String → Except UsageError Arguments
  | [] => p.settle
  | arg :: args =>
    if !onlyPaths && arg = "--" then p.addAll true args
    else
      match if onlyPaths then p.addPath arg else p.add arg with
      | .error e => .error e
      | .ok p => p.addAll onlyPaths args

end Progress

/-- The arguments that the words of a command line stand for. -/
def Arguments.ofWords (words : List String) : Except UsageError Arguments :=
  (⟨.empty, .nothing⟩ : Progress).addAll false words

end GrowthScan.CommandLine
