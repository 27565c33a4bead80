import GrowthScan.Proofs.Directive.Progress
import GrowthScan.Proofs.Text.Margins

/-!
# Directives and the margins of lines

A line holds the same directive whatever its margins (`ofLine?_ignoresMargins`), so
that of lists of lines that are alike, lines that are alike are kept
(`Progress.kept_alike`).
-/

namespace GrowthScan

namespace Text

section

variable {c : Char} {q : List Char → Option α} (hq : ∀ s, q (s ++ [c]) = q s)

include hq

/-- A reading that does not see a character at the end of a text does not see it behind a word
without the character. -/
theorem after?_bind_concat {w : List Char} (hw : c ∉ w) (s : List Char) :
    (after? w (s ++ [c])).bind q = (after? w s).bind q := by
  induction w generalizing s with
  | nil => exact hq s
  | cons d w ih =>
    obtain ⟨hd, hw⟩ : c ≠ d ∧ c ∉ w := by simpa using hw
    cases s with
    | nil => simp [after?, Ne.symm hd]
    | cons e s =>
      rw [List.cons_append, after?, after?]
      split
      · exact ih hw s
      · rfl

/-- Nor does it see it behind a run to which the character belongs, if it finds nothing at the
end of the text. -/
theorem afterRun?_bind_concat {p : Char → Bool} (hc : p c = true) (hnil : q [] = none)
    (s : List Char) : (afterRun? p (s ++ [c])).bind q = (afterRun? p s).bind q := by
  cases s with
  | nil => simp [afterRun?, hc, hnil]
  | cons e s =>
    rw [List.cons_append, afterRun?, afterRun?, List.dropWhile_append]
    split
    · split
      · rename_i h
        rw [List.isEmpty_iff.mp h, List.dropWhile_cons_of_pos hc]
        rfl
      · exact hq _
    · rfl

end

theorem isSome_after?_concat {c : Char} {w : List Char} (hw : c ∉ w) (s : List Char) :
    (after? w (s ++ [c])).isSome = (after? w s).isSome := by
  have h := after?_bind_concat (q := fun _ => some ()) (fun _ => rfl) hw s
  cases h₁ : after? w (s ++ [c]) <;> cases h₂ : after? w s <;> simp [h₁, h₂] at h ⊢

/-- A search does not see a character that no answer depends on. -/
theorem firstSome_concat {c : Char} {q : List Char → Option α} (hq : ∀ s, q (s ++ [c]) = q s)
    (s : List Char) : firstSome q (s ++ [c]) = firstSome q s := by
  induction s with
  | nil =>
    have hnil : q [c] = q [] := hq []
    simp only [List.nil_append, firstSome, hnil]
    cases q [] <;> rfl
  | cons d s ih => rw [List.cons_append, firstSome, ← List.cons_append, hq, ih, firstSome]

end Text

namespace Directive

open Text

theorem atFront?_concat_return (s : List Char) : atFront? (s ++ ['\r']) = atFront? s := by
  have hkeyword (s : List Char) : (keywords.find? fun k => (after? k.1.toList (s ++ ['\r'])).isSome) =
      keywords.find? fun k => (after? k.1.toList s).isSome := by
    simp only [keywords, List.find?_cons, List.find?_nil]
    repeat rw [isSome_after?_concat (by decide)]
  have hblank : isBlank '\r' = true := by decide
  simp only [atFront?, Option.bind_eq_bind]
  -- from the front of the directive to its keyword, which is found before the margin
  refine after?_bind_concat (fun s => ?_) (by decide) s
  refine afterRun?_bind_concat (fun s => ?_) hblank rfl s
  refine after?_bind_concat (fun s => ?_) (by decide) s
  refine afterRun?_bind_concat (fun s => ?_) hblank rfl s
  rw [hkeyword]

theorem atFront?_cons_gap {c : Char} (hc : isGap c = true) (s : List Char) :
    atFront? (c :: s) = none := by
  simp only [isGap, Bool.or_eq_true, beq_iff_eq] at hc
  rcases hc with rfl | rfl <;> rfl

theorem ofLine?_ignoresMargins : IgnoresMargins ofLine? where
  cons_gap c l hc := by rw [ofLine?, firstSome, atFront?_cons_gap hc, ofLine?]
  concat_return l := firstSome_concat atFront?_concat_return l

theorem ignoresFile_eq_of_alike {ls ls' : List (List Char)} (h : Alike ls ls') :
    ignoresFile ls = ignoresFile ls' := by
  have hmap := h.map_eq (ofLine?_ignoresMargins.comp fun d => decide (d = some file))
  have hany (ls : List (List Char)) :
      ignoresFile ls = (ls.map fun l => decide (ofLine? l = some file)).any id := by
    rw [List.any_map]
    rfl
  rw [hany, hany, hmap]

namespace Progress

variable {l l' : List Char}

theorem step_eq_of_bare_eq (h : bare l = bare l') (s : Progress) : s.step l = s.step l' := by
  simp only [step, applies, ofLine?_ignoresMargins.eq_of_bare_eq h]

theorem keeps_eq_of_bare_eq (h : bare l = bare l') (s : Progress) : s.keeps l = s.keeps l' := by
  simp only [keeps, ofLine?_ignoresMargins.eq_of_bare_eq h]

/-- Of lines that are alike, lines that are alike are kept. -/
theorem kept_alike {ls ls' : List (List Char)} (h : Alike ls ls') (s : Progress) :
    Alike (s.kept ls) (s.kept ls') := by
  induction h generalizing s with
  | nil => exact .nil
  | cons hl _ ih =>
    rw [kept_cons, kept_cons, step_eq_of_bare_eq hl, keeps_eq_of_bare_eq hl]
    split
    · exact .cons hl (ih _)
    · exact ih _

end Progress

end Directive

end GrowthScan
