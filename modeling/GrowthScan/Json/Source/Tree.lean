import GrowthScan.Json.Basic
import GrowthScan.Json.Source

/-!
# Typed values from a JSON tree

The members of an object are visited in the order of their names.
-/

namespace GrowthScan.Json

/-- Takes a value out of a tree. -/
abbrev Decoder := ReaderT Json (Except Fault)

/-- The kind of a value. -/
def found : Json → Found
  | null => .null
  | bool b => .bool b
  | integer n => .integer n
  | float x => .float x
  | string s => .string s.toList
  | array _ => .sequence
  | object _ => .map

namespace Decoder

/-- Refuses the value, which is not of the expected kind. -/
def wrongKind (expected : String) : Decoder α := fun v => .error (.wrongKind v.found expected)

def string : Decoder String
  | .string s => .ok s
  | v => wrongKind "a string" v

def orNull (d : Decoder α) : Decoder (Option α)
  | .null => .ok none
  | v => some <$> d v

def list (item : Decoder α) : Decoder (List α)
  | .array items => items.mapM item
  | v => wrongKind "a sequence" v

/-- The option with this name. -/
def option (options : List (String × α)) (name : String) : Except Fault α :=
  match options.lookup name with
  | some a => .ok a
  | none => .error (.unknownOption name (options.map (·.1)))

/-- An option by its name, as a string or as the one name in an object that holds `null`. -/
def choice (options : List (String × α)) : Decoder α
  | .string name => option options name
  | .object [(name, v)] => do
    let a ← option options name
    match v with
    | .null => return a
    | v => wrongKind "unit" v
  | .object _ => .error (.wrongObject "map with a single key")
  | v => wrongKind "string or map" v

/-- Reads the fields in their order, as long as there are items. -/
def fieldsInOrder : List (Field Decoder σ) → List Json → σ → Except Fault σ
  | f :: fs, v :: vs, acc => do fieldsInOrder fs vs (← f.read acc v)
  | _, _, acc => .ok acc

/-- Reads the fields that members are named for. -/
def fieldsByName (fields : List (Field Decoder σ)) (members : List (String × Json)) (acc : σ) :
    Except Fault σ :=
  members.foldlM (fun acc (name, v) =>
    match fields.find? (·.name = name) with
    | none => .ok acc
    | some f => if f.isSet acc then .error (.repeatedMember name) else f.read acc v) acc

def record (r : Record Decoder σ α) : Decoder α
  | .array items => do
    match r.finish (← fieldsInOrder r.fields items r.start) with
    | .error field => .error (.wrongLength (r.place field) r.asList)
    | .ok a =>
      if r.fields.length < items.length then
        .error (.wrongLength items.length "fewer elements in array")
      else .ok a
  | .object members => do
    let sorted := members.mergeSort fun a b => a.1 ≤ b.1
    match r.finish (← fieldsByName r.fields sorted r.start) with
    | .error field => .error (.missingMember field)
    | .ok a => .ok a
  | v => wrongKind r.name v

instance : Source Decoder where
  refuse fault := fun _ => .error fault
  string := string
  orNull := orNull
  list := list
  choice := choice
  record := record

end Decoder

/-- The typed value that a tree stands for. -/
def decode (d : Decoder α) (v : Json) : Except Error α := (d v).mapError (⟨·, none⟩)

end GrowthScan.Json
