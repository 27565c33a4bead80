import GrowthScan.Analysis
import GrowthScan.Error
import GrowthScan.Json.Printer
import GrowthScan.Json.Source.Text
import GrowthScan.Json.Source.Tree

/-!
# Analyses as JSON

A growth class is written as its label and may be read in any of its spellings.
-/

namespace GrowthScan

open Json (Source)

variable {m : Type → Type} [Monad m] [Source m]

/-- Reads a growth class. -/
def Growth.ofSource : m Growth := do
  let label ← Source.string
  match Growth.ofLabel label with
  | .ok g => return g
  | .error e => Source.refuse (.refused e.message)

def Growth.toJson (g : Growth) : Json := .string g.label

namespace Finding

/-- The members of a finding that were met. -/
structure Partial where
  operation? : Option String
  growth? : Option Growth
  remark? : Option String

/-- How a finding is read. -/
def layout : Json.Record m Partial Finding where
  name := "struct BreakdownItem"
  fields :=
    [⟨"operation", (·.operation?.isSome),
        fun p => do return { p with operation? := some (← Source.string) }⟩,
     ⟨"complexity", (·.growth?.isSome),
        fun p => do return { p with growth? := some (← Growth.ofSource) }⟩,
     ⟨"description", (·.remark?.isSome),
        fun p => do return { p with remark? := some (← Source.string) }⟩]
  start := ⟨none, none, none⟩
  finish
    | ⟨some operation, some growth, some remark⟩ => .ok ⟨operation, growth, remark⟩
    | ⟨none, _, _⟩ => .error "operation"
    | ⟨_, none, _⟩ => .error "complexity"
    | ⟨_, _, none⟩ => .error "description"

def ofSource : m Finding := Source.record layout

def toJson (f : Finding) : Json :=
  .object [("operation", .string f.operation), ("complexity", f.growth.toJson),
    ("description", .string f.remark)]

end Finding

namespace Analysis

/-- The members of an analysis that were met. -/
structure Partial where
  time? : Option Growth
  space? : Option Growth
  explanation? : Option String
  findings? : Option (List Finding)

/-- How an analysis is read. -/
def layout : Json.Record m Partial Analysis where
  name := "struct ComplexityResult"
  fields :=
    [⟨"timeComplexity", (·.time?.isSome),
        fun p => do return { p with time? := some (← Growth.ofSource) }⟩,
     ⟨"spaceComplexity", (·.space?.isSome),
        fun p => do return { p with space? := some (← Growth.ofSource) }⟩,
     ⟨"explanation", (·.explanation?.isSome),
        fun p => do return { p with explanation? := some (← Source.string) }⟩,
     ⟨"breakdown", (·.findings?.isSome),
        fun p => do return { p with findings? := some (← Source.list Finding.ofSource) }⟩]
  start := ⟨none, none, none, none⟩
  finish
    | ⟨some time, some space, some explanation, some findings⟩ =>
      .ok ⟨time, space, explanation, findings⟩
    | ⟨none, _, _, _⟩ => .error "timeComplexity"
    | ⟨_, none, _, _⟩ => .error "spaceComplexity"
    | ⟨_, _, none, _⟩ => .error "explanation"
    | ⟨_, _, _, none⟩ => .error "breakdown"

def ofSource : m Analysis := Source.record layout

def toJson (a : Analysis) : Json :=
  .object [("timeComplexity", a.time.toJson), ("spaceComplexity", a.space.toJson),
    ("explanation", .string a.explanation), ("breakdown", .array (a.findings.map Finding.toJson))]

/-- The analysis that a JSON text writes. -/
def ofText (text : List Char) : Except Error Analysis :=
  (Json.read ofSource text).mapError .settings

/-- The analysis that a JSON tree stands for. -/
def ofJson (v : Json) : Except Error Analysis := (Json.decode ofSource v).mapError .settings

end Analysis

/-- The growth class that a JSON text writes. -/
def Growth.ofText (text : List Char) : Except Error Growth :=
  (Json.read Growth.ofSource text).mapError .settings

end GrowthScan
