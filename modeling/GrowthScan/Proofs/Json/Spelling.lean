import GrowthScan.Json.Literal
import GrowthScan.Json.Printer

/-!
# The texts that spell a JSON value

`Spells` is the grammar of JSON without numbers, in the one way to write strings that
the printers know, and with blanks wherever they may stand between the signs. Both
printers stay within it (`spells_compact`, `spells_pretty`), so that what holds of
every spelling of a value holds of both layouts.
-/

namespace GrowthScan.Json

open Reader (isBlank)

/-- Only blanks. -/
def Blanks (b : List Char) : Prop := ∀ c ∈ b, isBlank c = true

theorem blanks_nil : Blanks [] := fun _ h => absurd h List.not_mem_nil

theorem Blanks.append {b b' : List Char} (h : Blanks b) (h' : Blanks b') : Blanks (b ++ b') :=
  List.forall_mem_append.mpr ⟨h, h'⟩

/-- What a piece of a JSON text may stand for. -/
inductive Phrase where
  | value (v : Json)
  /-- What is left of an array, with its end. -/
  | items (first : Bool) (vs : List Json)
  /-- What is left of an object, with its end. -/
  | members (first : Bool) (ms : List (String × Json))

/-- What stands in front of an item or a member, unless it is the first one. -/
def separator (first : Bool) : List Char := if first then [] else [',']

/-- The text spells the phrase. -/
inductive Spells : Phrase → List Char → Prop where
  | null {b : List Char} (hb : Blanks b) : Spells (.value .null) (b ++ "null".toList)
  | bool {b : List Char} (hb : Blanks b) (x : Bool) :
      Spells (.value (.bool x)) (b ++ if x then "true".toList else "false".toList)
  | string {b : List Char} (hb : Blanks b) (s : String) : Spells (.value (.string s)) (b ++ quote s)
  | array {b t : List Char} {vs : List Json} (hb : Blanks b) (h : Spells (.items true vs) t) :
      Spells (.value (.array vs)) (b ++ '[' :: t)
  | object {b t : List Char} {ms : List (String × Json)} (hb : Blanks b)
      (h : Spells (.members true ms) t) : Spells (.value (.object ms)) (b ++ '{' :: t)
  | endOfItems {b : List Char} {first : Bool} (hb : Blanks b) :
      Spells (.items first []) (b ++ [']'])
  | item {b t u : List Char} {first : Bool} {v : Json} {vs : List Json} (hb : Blanks b)
      (hv : Spells (.value v) t) (h : Spells (.items false vs) u) :
      Spells (.items first (v :: vs)) (b ++ separator first ++ t ++ u)
  | endOfMembers {b : List Char} {first : Bool} (hb : Blanks b) :
      Spells (.members first []) (b ++ ['}'])
  | member {b b' b'' t u : List Char} {first : Bool} {name : String} {v : Json}
      {ms : List (String × Json)} (hb : Blanks b) (hb' : Blanks b') (hb'' : Blanks b'')
      (hv : Spells (.value v) t) (h : Spells (.members false ms) u) :
      Spells (.members first ((name, v) :: ms))
        (b ++ separator first ++ b' ++ quote name ++ b'' ++ ':' :: t ++ u)

namespace Spells

/-- Blanks may stand in front of every phrase. -/
theorem blanks_append {p : Phrase} {b t : List Char} (hb : Blanks b) (h : Spells p t) :
    Spells p (b ++ t) := by
  cases h with
  | null h => rw [← List.append_assoc]; exact .null (hb.append h)
  | bool h x => rw [← List.append_assoc]; exact .bool (hb.append h) x
  | string h s => rw [← List.append_assoc]; exact .string (hb.append h) s
  | array h ht => rw [← List.append_assoc]; exact .array (hb.append h) ht
  | object h ht => rw [← List.append_assoc]; exact .object (hb.append h) ht
  | endOfItems h => rw [← List.append_assoc]; exact .endOfItems (hb.append h)
  | endOfMembers h => rw [← List.append_assoc]; exact .endOfMembers (hb.append h)
  | item h hv ht =>
    simp only [← List.append_assoc]
    exact .item (hb.append h) hv ht
  | member h h' h'' hv ht =>
    simp only [← List.append_assoc]
    exact .member (hb.append h) h' h'' hv ht

theorem length_pos {p : Phrase} {t : List Char} (h : Spells p t) : 0 < t.length := by
  induction h with
  | bool _ x => cases x <;> simp
  | item _ _ _ _ ih | member _ _ _ _ _ _ ih =>
    rw [List.length_append]
    exact Nat.add_pos_right _ ih
  | _ => exact List.length_pos_iff.mpr (by simp [quote])

/-- Enough fuel for a spelling is some fuel. -/
theorem exists_fuel {p : Phrase} {t : List Char} (h : Spells p t) {fuel : Nat}
    (hfuel : t.length ≤ fuel) : ∃ n, fuel = n + 1 :=
  Nat.exists_eq_add_one.mpr (Nat.lt_of_lt_of_le h.length_pos hfuel)

end Spells

/-! ## Printers -/

/-- A value without numbers. -/
inductive Plain : Json → Prop where
  | null : Plain .null
  | bool (x : Bool) : Plain (.bool x)
  | string (s : String) : Plain (.string s)
  | array {vs : List Json} (h : ∀ v ∈ vs, Plain v) : Plain (.array vs)
  | object {ms : List (String × Json)} (h : ∀ m ∈ ms, Plain m.2) : Plain (.object ms)

theorem plain_strings (ss : List String) : Plain (strings ss) :=
  .array (List.forall_mem_map.mpr fun s _ => .string s)

theorem spells_compactItems {vs : List Json} (h : ∀ v ∈ vs, Spells (.value v) (compact v)) :
    Spells (.items false vs) (compactItems vs) := by
  induction vs with
  | nil => exact .endOfItems blanks_nil
  | cons v vs ih =>
    rw [List.forall_mem_cons] at h
    exact .item blanks_nil h.1 (ih h.2)

theorem spells_compactMembers {ms : List (String × Json)}
    (h : ∀ m ∈ ms, Spells (.value m.2) (compact m.2)) :
    Spells (.members false ms) (compactMembers ms) := by
  induction ms with
  | nil => exact .endOfMembers blanks_nil
  | cons m ms ih =>
    rw [List.forall_mem_cons] at h
    have hspells : Spells (.members false (m :: ms)) _ :=
      .member blanks_nil blanks_nil blanks_nil h.1 (ih h.2)
    simpa [compactMembers, separator] using hspells

theorem spells_compact {v : Json} (h : Plain v) : Spells (.value v) (compact v) := by
  induction h with
  | null => exact .null blanks_nil
  | bool x => cases x <;> exact .bool blanks_nil _
  | string s => exact .string blanks_nil s
  | @array vs _ ih =>
    cases vs with
    | nil => exact .array blanks_nil (.endOfItems blanks_nil)
    | cons v vs =>
      rw [List.forall_mem_cons] at ih
      exact .array blanks_nil (.item blanks_nil ih.1 (spells_compactItems ih.2))
  | @object ms _ ih =>
    cases ms with
    | nil => exact .object blanks_nil (.endOfMembers blanks_nil)
    | cons m ms =>
      rw [List.forall_mem_cons] at ih
      have hspells : Spells (.members true (m :: ms)) _ :=
        .member blanks_nil blanks_nil blanks_nil ih.1 (spells_compactMembers ih.2)
      simpa [compact, separator] using Spells.object blanks_nil hspells

theorem blanks_newLine (depth : Nat) : Blanks (newLine depth) :=
  List.forall_mem_cons.mpr ⟨by decide, fun c hc => by rw [List.eq_of_mem_replicate hc]; decide⟩

theorem blanks_space : Blanks [' '] := List.forall_mem_singleton.mpr (by decide)

theorem spells_prettyItems {depth : Nat} {vs : List Json}
    (h : ∀ v ∈ vs, Spells (.value v) (prettyAt (depth + 1) v)) :
    Spells (.items false vs) (prettyItems depth vs) := by
  induction vs with
  | nil => exact .endOfItems (blanks_newLine depth)
  | cons v vs ih =>
    rw [List.forall_mem_cons] at h
    have hspells : Spells (.items false (v :: vs)) _ :=
      .item blanks_nil (h.1.blanks_append (blanks_newLine (depth + 1))) (ih h.2)
    simpa [prettyItems, separator] using hspells

theorem spells_prettyMembers {depth : Nat} {ms : List (String × Json)}
    (h : ∀ m ∈ ms, Spells (.value m.2) (prettyAt (depth + 1) m.2)) :
    Spells (.members false ms) (prettyMembers depth ms) := by
  induction ms with
  | nil => exact .endOfMembers (blanks_newLine depth)
  | cons m ms ih =>
    rw [List.forall_mem_cons] at h
    have hspells : Spells (.members false (m :: ms)) _ :=
      .member blanks_nil (blanks_newLine (depth + 1)) blanks_nil
        (h.1.blanks_append blanks_space) (ih h.2)
    simpa [prettyMembers, separator] using hspells

theorem spells_prettyAt {v : Json} (h : Plain v) (depth : Nat) :
    Spells (.value v) (prettyAt depth v) := by
  induction h generalizing depth with
  | null => exact .null blanks_nil
  | bool x => cases x <;> exact .bool blanks_nil _
  | string s => exact .string blanks_nil s
  | @array vs _ ih =>
    cases vs with
    | nil => exact .array blanks_nil (.endOfItems blanks_nil)
    | cons v vs =>
      rw [List.forall_mem_cons] at ih
      have hspells : Spells (.items true (v :: vs)) _ :=
        .item blanks_nil ((ih.1 (depth + 1)).blanks_append (blanks_newLine (depth + 1)))
          (spells_prettyItems fun v hv => ih.2 v hv (depth + 1))
      simpa [prettyAt, separator] using Spells.array blanks_nil hspells
  | @object ms _ ih =>
    cases ms with
    | nil => exact .object blanks_nil (.endOfMembers blanks_nil)
    | cons m ms =>
      rw [List.forall_mem_cons] at ih
      have hspells : Spells (.members true (m :: ms)) _ :=
        .member blanks_nil (blanks_newLine (depth + 1)) blanks_nil
          ((ih.1 (depth + 1)).blanks_append blanks_space)
          (spells_prettyMembers fun m hm => ih.2 m hm (depth + 1))
      simpa [prettyAt, separator] using Spells.object blanks_nil hspells

theorem spells_pretty {v : Json} (h : Plain v) : Spells (.value v) (pretty v) :=
  spells_prettyAt h 0

end GrowthScan.Json
