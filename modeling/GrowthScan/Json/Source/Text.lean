import GrowthScan.Json.Source
import GrowthScan.Json.Tree

/-!
# Typed values from a JSON text

The text is read from the front and only as far as needed: what comes after the first fault is
never looked at. Members of other names are passed over.
-/

namespace GrowthScan.Json.Reader

/-- What kind of value comes next. Containers stay in front of the text. -/
def found : Reader Found := do
  let c ← nextOfValue
  if c = 'n' then advance; word "ull".toList; return .null
  else if c = 't' then advance; word "rue".toList; return .bool true
  else if c = 'f' then advance; word "alse".toList; return .bool false
  else if c = '-' then advance; return ofNumber (← number true)
  else if c.isDigit then return ofNumber (← number false)
  else if c = '"' then advance; return .string (← stringBody)
  else if c = '[' then return .sequence
  else if c = '{' then return .map
  else failAhead .expectedValue
where
  /-- The kind of a number. -/
  ofNumber : Json → Found
    | .integer n => .integer n
    | .float x => .float x
    | _ => .null

/-- Refuses the value that comes next, which is not of the expected kind. -/
def wrongKind (expected : String) : Reader α := do
  fail (.wrongKind (← found) expected)

/-- Reads a string. -/
def string : Reader String := do
  if (← nextOfValue) = '"' then advance; text
  else wrongKind "a string"

/-- Reads a value or `null`. -/
def orNull (r : Reader α) : Reader (Option α) := do
  if (← next?) = some 'n' then advance; word "ull".toList; return none
  else return some (← r)

/-- Reads `null`. -/
def nothing : Reader Unit := do
  if (← nextOfValue) = 'n' then advance; word "ull".toList
  else wrongKind "unit"

/-- Reads the name of an option. -/
def option (options : List (String × α)) : Reader α := do
  if (← nextOfValue) = '"' then
    advance
    let name ← text
    match options.lookup name with
    | some a => return a
    | none => fail (.unknownOption name (options.map (·.1)))
  else wrongKind "variant identifier"

/-- Reads the name of an option, as a string or as the one name in an object that holds `null`. -/
def choice (options : List (String × α)) : Reader α := do
  let c ← nextOfValue
  if c = '"' then option options
  else if c = '{' then
    advance
    let a ← option options
    colon
    nothing
    match ← next? with
    | some '}' => advance; return a
    | some _ => fail .expectedValue
    | none => fail (.endsInside .object)
  else failAhead .expectedValue

/-- Reads at most `fuel` further items of an array, up to its end. -/
def itemsOf (item : Reader α) : Nat → Bool → Reader (List α)
  | 0, _ => failAhead .expectedItemOrEnd
  | fuel + 1, first => do
    if ← hasItem first then
      let a ← item
      return a :: (← itemsOf item fuel false)
    else return []

/-- Reads an array of like values. -/
def list (item : Reader α) : Reader (List α) := placed do
  if (← nextOfValue) = '[' then
    advance
    closedBy endOfList fun s => itemsOf item (enough s) true s
  else wrongKind "a sequence"

/-- Reads the fields in their order, as long as the array goes on. -/
def fieldsInOrder (first : Bool) (acc : σ) : List (Field Reader σ) → Reader σ
  | [] => return acc
  | f :: fs => do
    if ← hasItem first then
      let acc ← f.read acc
      fieldsInOrder false acc fs
    else return acc

/-- Reads at most `fuel` further members of an object, up to its end. -/
def fieldsByName (fields : List (Field Reader σ)) : Nat → Bool → σ → Reader σ
  | 0, _, _ => failAhead .expectedMemberOrEnd
  | fuel + 1, first, acc => do
    if ← hasMember first then
      advance
      let name ← text
      match fields.find? (·.name = name) with
      | none =>
        colon
        skip
        fieldsByName fields fuel false acc
      | some f =>
        if f.isSet acc then refuse (.repeatedMember name)
        colon
        let acc ← f.read acc
        fieldsByName fields fuel false acc
    else return acc

/-- Reads a record from an object or an array. -/
def record (r : Record Reader σ α) : Reader α := placed do
  let c ← nextOfValue
  if c = '[' then
    advance
    closedBy endOfList do
      let acc ← fieldsInOrder true r.start r.fields
      match r.finish acc with
      | .ok a => return a
      | .error field => refuse (.wrongLength (r.place field) r.asList)
  else if c = '{' then
    advance
    closedBy endOfObject do
      let acc ← (fun s => fieldsByName r.fields (enough s) true r.start s : Reader σ)
      match r.finish acc with
      | .ok a => return a
      | .error field => refuse (.missingMember field)
  else wrongKind r.name

instance : Source Reader where
  refuse := refuse
  string := string
  orNull := orNull
  list := list
  choice := choice
  record := record

end GrowthScan.Json.Reader
