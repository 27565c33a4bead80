/-!
# Searching a text for words

A text is the list of its characters, a word a list of them.

- `after?_eq_some_iff`: what follows a word at the front of a text.
- `firstSome_isSome_iff`: a search succeeds where some end of the text answers.
- `occurs_iff`: a word occurs where the text splits around it.
-/

namespace GrowthScan.Text

/-- What follows the word `w` at the front of a text that begins with it. -/
def after? : List Char → List Char → Option (List Char)
  | [], s => some s
  | _ :: _, [] => none
  | c :: w, d :: s => if c = d then after? w s else none

/-- What follows a nonempty run of characters with the property. -/
def afterRun? (p : Char → Bool) : List Char → Option (List Char)
  | [] => none
  | c :: s => if p c then some (s.dropWhile p) else none

/-- The first answer of `p` on an end of the text, the longest end first. -/
def firstSome (p : List Char → Option α) : List Char → Option α
  | [] => p []
  | c :: s =>
    match p (c :: s) with
    | some a => some a
    | none => firstSome p s

/-- Whether the word occurs in the text. -/
def occurs (w s : List Char) : Bool := (firstSome (after? w) s).isSome

/-- Whether some of the words occurs in the text. -/
def occursAny (ws : List (List Char)) (s : List Char) : Bool := ws.any fun w => occurs w s

/-- Whether the words occur one after another without overlap. Taking each at its first place
leaves the most room for the rest. -/
def inOrder : List (List Char) → List Char → Bool
  | [], _ => true
  | w :: ws, s =>
    match firstSome (after? w) s with
    | some r => inOrder ws r
    | none => false

/-- The number of places where the word begins. -/
def occurrences (w : List Char) : List Char → Nat
  | [] => if w.isEmpty then 1 else 0
  | c :: s => (if (after? w (c :: s)).isSome then 1 else 0) + occurrences w s

theorem after?_eq_some_iff {w s r : List Char} : after? w s = some r ↔ s = w ++ r := by
  induction w generalizing s with
  | nil => simp [after?]
  | cons c w ih =>
    cases s with
    | nil => simp [after?]
    | cons d s =>
      by_cases h : c = d
      · simp [after?, h, ih]
      · simp [after?, h, Ne.symm h]

theorem after?_isSome_iff {w s : List Char} : (after? w s).isSome ↔ w <+: s := by
  rw [Option.isSome_iff_exists]
  exact ⟨fun ⟨r, h⟩ => ⟨r, (after?_eq_some_iff.1 h).symm⟩,
    fun ⟨r, h⟩ => ⟨r, after?_eq_some_iff.2 h.symm⟩⟩

theorem firstSome_isSome_iff {p : List Char → Option α} {s : List Char} :
    (firstSome p s).isSome ↔ ∃ t, t <:+ s ∧ (p t).isSome := by
  induction s with
  | nil => simp [firstSome]
  | cons c s ih =>
    cases h : p (c :: s) with
    | some a =>
      simp only [firstSome, h, Option.isSome_some, true_iff]
      exact ⟨c :: s, List.suffix_refl _, by simp [h]⟩
    | none =>
      simp only [firstSome, h, ih, List.suffix_cons_iff]
      constructor
      · rintro ⟨t, ht, hp⟩
        exact ⟨t, .inr ht, hp⟩
      · rintro ⟨t, rfl | ht, hp⟩
        · simp [h] at hp
        · exact ⟨t, ht, hp⟩

theorem occurs_iff {w s : List Char} : occurs w s ↔ w <:+: s := by
  simp only [occurs, firstSome_isSome_iff, after?_isSome_iff]
  constructor
  · rintro ⟨t, ⟨a, ha⟩, ⟨b, hb⟩⟩
    exact ⟨a, b, by rw [← ha, ← hb, List.append_assoc]⟩
  · rintro ⟨a, b, h⟩
    exact ⟨w ++ b, ⟨a, by rw [← h, List.append_assoc]⟩, ⟨b, rfl⟩⟩

end GrowthScan.Text
