import GrowthScan.Algorithm
import GrowthScan.Proofs.Text.InOrder

/-!
# Which algorithm is recognised

A shape describes the texts that take one of its choices at each place, with anything on one line
between two places (`Shape.language`). These are the texts of its word sequences
(`Shape.mem_language_iff`), so that a shape is found somewhere in a text where a line
has the words of a sequence in order (`Algorithm.appearsIn_iff_exists_infix`).

Of the algorithms that are found the first one is told, and none only if there is none
(`Algorithm.detect_first`).
-/

namespace GrowthScan

open Text (InOrder gap spaced)

namespace Shape

/-- The texts that a shape describes: a choice at each place, and a gap between any two places. -/
def language : Shape → Set (List Char)
  | [] => {[]}
  | [choices] => {s | ∃ w ∈ choices, s = w.toList}
  | choices :: next :: shape => {s | ∃ w ∈ choices, ∃ between ∈ gap,
      ∃ rest ∈ language (next :: shape), s = w.toList ++ (between ++ rest)}

variable {shape : Shape} {choices : List String} {s : List Char}

theorem exists_mem_sequences_cons {p : List (List Char) → Prop} :
    (∃ ws ∈ sequences (choices :: shape), p ws) ↔
      ∃ w ∈ choices, ∃ ws ∈ shape.sequences, p (w.toList :: ws) := by
  simp only [sequences, List.mem_flatMap, List.mem_map]
  constructor
  · rintro ⟨_, ⟨w, hw, ws, hws, rfl⟩, h⟩
    exact ⟨w, hw, ws, hws, h⟩
  · rintro ⟨w, hw, ws, hws, h⟩
    exact ⟨_, ⟨w, hw, ws, hws, rfl⟩, h⟩

theorem mem_language_cons_iff (hshape : shape ≠ []) :
    s ∈ language (choices :: shape) ↔
      ∃ w ∈ choices, ∃ between ∈ gap, ∃ rest ∈ shape.language,
        s = w.toList ++ (between ++ rest) := by
  obtain ⟨next, shape, rfl⟩ := List.exists_cons_of_ne_nil hshape
  rfl

/-- A sequence has a word for each place of the shape. -/
theorem ne_nil_of_mem_sequences (hshape : shape ≠ []) {ws : List (List Char)}
    (h : ws ∈ shape.sequences) : ws ≠ [] := by
  obtain ⟨choices, shape, rfl⟩ := List.exists_cons_of_ne_nil hshape
  obtain ⟨w, -, vs, -, rfl⟩ := exists_mem_sequences_cons.mp ⟨ws, h, rfl⟩
  exact List.cons_ne_nil _ _

/-- A shape describes the texts of its word sequences. -/
theorem mem_language_iff : s ∈ shape.language ↔ ∃ ws ∈ shape.sequences, s ∈ spaced ws := by
  induction shape generalizing s with
  | nil => simp [language, sequences, spaced]
  | cons choices shape ih =>
    rw [exists_mem_sequences_cons]
    by_cases hshape : shape = []
    · subst hshape
      constructor
      · rintro ⟨w, hw, rfl⟩
        exact ⟨w, hw, [], List.mem_singleton_self _, rfl⟩
      · rintro ⟨w, hw, ws, hws, hs⟩
        rw [List.mem_singleton.mp hws] at hs
        exact ⟨w, hw, hs⟩
    · rw [mem_language_cons_iff hshape]
      constructor
      · rintro ⟨w, hw, between, hbetween, rest, hrest, rfl⟩
        obtain ⟨ws, hws, hrest⟩ := ih.mp hrest
        have hne := ne_nil_of_mem_sequences hshape hws
        exact ⟨w, hw, ws, hws,
          (Text.mem_spaced_cons_iff hne).mpr ⟨between, hbetween, rest, hrest, rfl⟩⟩
      · rintro ⟨w, hw, ws, hws, hs⟩
        have hne := ne_nil_of_mem_sequences hshape hws
        obtain ⟨between, hbetween, rest, hrest, rfl⟩ := (Text.mem_spaced_cons_iff hne).mp hs
        exact ⟨w, hw, between, hbetween, rest, ih.mpr ⟨ws, hws, hrest⟩, rfl⟩

end Shape

namespace Algorithm

variable {a : Algorithm} {text : List Char}

/-- Whether the line has the words of the algorithm in order, in one of the sequences. -/
def HasWords (a : Algorithm) (line : List Char) : Prop :=
  ∃ shape ∈ a.shapes, ∃ ws ∈ shape.sequences, InOrder ws line

theorem appearsIn_iff : a.appearsIn text = true ↔ ∃ line ∈ text.splitOn '\n', a.HasWords line := by
  simp only [appearsIn, HasWords, Shape.fits, List.any_eq_true, Text.inOrder_iff]

/-- Every word of the catalog is on one line. -/
theorem mem_gap_of_mem_sequences :
    ∀ shape ∈ a.shapes, ∀ ws ∈ shape.sequences, ∀ w ∈ ws, w ∈ gap := by
  show ∀ shape ∈ a.shapes, ∀ ws ∈ shape.sequences, ∀ w ∈ ws, '\n' ∉ w
  cases a <;> decide +kernel

/-- An algorithm appears in a text where a text that one of its shapes describes is found. -/
theorem appearsIn_iff_exists_infix :
    a.appearsIn text = true ↔ ∃ shape ∈ a.shapes, ∃ t ∈ shape.language, t <:+: text := by
  rw [appearsIn_iff]
  constructor
  · rintro ⟨line, hline, shape, hshape, ws, hws, h⟩
    have hwords := mem_gap_of_mem_sequences shape hshape ws hws
    obtain ⟨t, ht, hinfix⟩ :=
      (Text.exists_spaced_infix_iff hwords text).mpr ⟨line, hline, h⟩
    exact ⟨shape, hshape, t, Shape.mem_language_iff.mpr ⟨ws, hws, ht⟩, hinfix⟩
  · rintro ⟨shape, hshape, t, ht, hinfix⟩
    obtain ⟨ws, hws, ht⟩ := Shape.mem_language_iff.mp ht
    have hwords := mem_gap_of_mem_sequences shape hshape ws hws
    obtain ⟨line, hline, h⟩ := (Text.exists_spaced_infix_iff hwords text).mp ⟨t, ht, hinfix⟩
    exact ⟨line, hline, shape, hshape, ws, hws, h⟩

/-- What is told is told of one algorithm only. -/
theorem finding_injective {a b : Algorithm} (h : a.finding = b.finding) : a = b := by
  revert h
  cases a <;> cases b <;> decide

theorem finding_ne_noFinding (a : Algorithm) : a.finding ≠ noFinding := by
  cases a <;> decide

theorem detect_eq_finding_iff : detect text = a.finding ↔ recognize? text = some a := by
  rw [detect]
  cases recognize? text with
  | none => exact iff_of_false (Ne.symm (finding_ne_noFinding a)) (by simp)
  | some b => exact ⟨fun h => congrArg some (finding_injective h), fun h => by simp_all⟩

theorem detect_eq_noFinding_iff : detect text = noFinding ↔ recognize? text = none := by
  rw [detect]
  cases recognize? text with
  | none => exact iff_of_true rfl rfl
  | some b => exact iff_of_false (finding_ne_noFinding b) (by simp)

/-- The finding is that of the first algorithm whose words some line has in order, and there is none
only if no line has any's. The lines tell what a search for the shapes all over the text would. -/
theorem detect_first (text : List Char) :
    let Appears (a : Algorithm) := ∃ line ∈ text.splitOn '\n', a.HasWords line
    (∀ a, detect text = a.finding ↔
      Appears a ∧ ∃ earlier later, all = earlier ++ a :: later ∧ ∀ b ∈ earlier, ¬Appears b) ∧
    (detect text = noFinding ↔ ∀ a, ¬Appears a) ∧
    ∀ a, Appears a ↔ ∃ shape ∈ a.shapes, ∃ t ∈ shape.language, t <:+: text := by
  intro Appears
  have happears (a : Algorithm) : a.appearsIn text = true ↔ Appears a := appearsIn_iff
  refine ⟨fun a => ?_, ?_, fun a => ?_⟩
  · rw [detect_eq_finding_iff, recognize?, List.find?_eq_some_iff_append]
    simp only [happears, Bool.not_eq_true', ← Bool.not_eq_true]
  · have hall (a : Algorithm) : a ∈ all := by cases a <;> decide
    rw [detect_eq_noFinding_iff, recognize?, List.find?_eq_none]
    simp only [happears]
    exact ⟨fun h a => h a (hall a), fun h a _ => h a⟩
  · rw [← happears, appearsIn_iff_exists_infix]

/-- Words of two algorithms on a line, and the words of one on two lines. -/
example : detect "merge sort, then quick sort".toList = quickSort.finding ∧
    detect "merge\nsort".toList = noFinding := by decide +kernel

end Algorithm

end GrowthScan
