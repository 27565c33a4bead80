import GrowthScan.Json.Fault

/-!
# Taking typed values out of JSON

What a program asks of JSON, be it a text that is read from the front or a tree: strings, lists,
choices and records. Each instance of `Source` says how a value of the wrong kind is refused.
-/

namespace GrowthScan.Json

/-- A member of a record that is read into some `σ`, where members that were not met are unset. -/
structure Field (m : Type → Type) (σ : Type) where
  name : String
  isSet : σ → Bool
  read : σ → m σ

/-- A kind of record. Its fields may stand in an object in any order, each at most once and among
members of other names, or in an array in their own order. -/
structure Record (m : Type → Type) (σ α : Type) where
  /-- The record in messages. -/
  name : String
  fields : List (Field m σ)
  /-- No field is set. -/
  start : σ
  /-- The record, or the first field that it lacks. -/
  finish : σ → Except String α

namespace Record

/-- The record in messages about an array. -/
def asList (r : Record m σ α) : String :=
  let count := r.fields.length
  r.name ++ " with " ++ toString count ++ if count = 1 then " element" else " elements"

/-- The place of the field among the fields. -/
def place (r : Record m σ α) (field : String) : Nat := r.fields.findIdx (·.name = field)

end Record

/-- Something that JSON values are taken from. -/
class Source (m : Type → Type) where
  /-- The value at hand means nothing. -/
  refuse : Fault → m α
  string : m String
  /-- A value or `null`. -/
  orNull : m α → m (Option α)
  list : m α → m (List α)
  /-- One of several options, by its name. -/
  choice : List (String × α) → m α
  record : Record m σ α → m α

end GrowthScan.Json
