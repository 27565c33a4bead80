import GrowthScan.Declaration
import GrowthScan.Proofs.Text.Lines
import Mathlib.Data.List.Forall2

/-!
# The margins of lines

Gaps in front of a line and carriage returns at its end are its margins; `bare` is
the line without them. A reading of lines that sees no margins
(`IgnoresMargins`) gives one answer on all lines with the same bare line, and
`Alike` compares lists of lines in that way.

The lines of a text are alike whether carriage returns belong to the line endings
or not (`alike_lines`), and lines that are alike are so when their texts are
trimmed (`Alike.trimLines`).
-/

namespace GrowthScan.Text

/-- The line without the gaps in front of it and the carriage returns at its end. -/
def bare (line : List Char) : List Char := (line.dropWhile isGap).rdropWhile (· == '\r')

/-- A reading of lines that sees neither gaps in front of a line nor carriage returns at its
end. -/
structure IgnoresMargins (f : List Char → α) : Prop where
  cons_gap : ∀ (c : Char) (l : List Char), isGap c = true → f (c :: l) = f l
  concat_return : ∀ l : List Char, f (l ++ ['\r']) = f l

theorem isBlank_of_isGap {c : Char} (h : isGap c = true) : isBlank c = true := by
  simp only [isGap, Bool.or_eq_true, beq_iff_eq] at h
  rcases h with rfl | rfl <;> decide

namespace IgnoresMargins

variable {f : List Char → α}

theorem comp (hf : IgnoresMargins f) (g : α → β) : IgnoresMargins fun l => g (f l) where
  cons_gap c l hc := by rw [hf.cons_gap c l hc]
  concat_return l := by rw [hf.concat_return l]

theorem bare_eq (hf : IgnoresMargins f) (line : List Char) : f (bare line) = f line := by
  have hfront : f (line.dropWhile isGap) = f line := by
    induction line with
    | nil => rfl
    | cons c l ih =>
      by_cases hc : isGap c = true
      · rw [List.dropWhile_cons_of_pos hc, ih, hf.cons_gap c l hc]
      · rw [List.dropWhile_cons_of_neg hc]
  rw [bare, ← hfront]
  generalize line.dropWhile isGap = l
  induction l using List.reverseRecOn with
  | nil => rfl
  | append_singleton l c ih =>
    by_cases hc : c = '\r'
    · rw [hc, List.rdropWhile_concat_pos _ _ _ (by decide), ih, hf.concat_return]
    · rw [List.rdropWhile_concat_neg _ _ _ (by simpa using hc)]

/-- One carriage return at the end belongs to the margin. -/
theorem dropReturn_eq (hf : IgnoresMargins f) (line : List Char) : f (dropReturn line) = f line := by
  unfold dropReturn
  split
  · rename_i h
    obtain ⟨l, rfl⟩ := List.getLast?_eq_some_iff.mp h
    rw [List.dropLast_concat, hf.concat_return]
  · rfl

end IgnoresMargins

theorem bare_ignoresMargins : IgnoresMargins bare where
  cons_gap c l hc := by rw [bare, List.dropWhile_cons_of_pos hc, bare]
  concat_return l := by
    have h : (l ++ ['\r']).dropWhile isGap = l.dropWhile isGap ++ ['\r'] := by
      rw [List.dropWhile_append]
      split
      · rename_i h
        rw [List.isEmpty_iff.mp h]
        rfl
      · rfl
    rw [bare, h, List.rdropWhile_concat_pos _ _ _ (by decide), bare]

/-! ## Alike lines -/

/-- Lists of lines that differ only in the margins. -/
def Alike : List (List Char) → List (List Char) → Prop :=
  List.Forall₂ fun l l' => bare l = bare l'

theorem IgnoresMargins.eq_of_bare_eq {f : List Char → α} (hf : IgnoresMargins f)
    {l l' : List Char} (h : bare l = bare l') : f l = f l' := by
  rw [← hf.bare_eq l, h, hf.bare_eq]

theorem Alike.refl (ls : List (List Char)) : Alike ls ls := List.forall₂_same.mpr fun _ _ => rfl

theorem Alike.symm {ls ls' : List (List Char)} (h : Alike ls ls') : Alike ls' ls :=
  (h.imp fun _ _ => Eq.symm).flip

theorem Alike.map_eq {f : List Char → α} (hf : IgnoresMargins f) {ls ls' : List (List Char)}
    (h : Alike ls ls') : ls.map f = ls'.map f := by
  induction h with
  | nil => rfl
  | cons hl _ ih => rw [List.map_cons, List.map_cons, hf.eq_of_bare_eq hl, ih]

theorem Alike.forall_mem {p : List Char → Prop} (hp : IgnoresMargins p)
    {ls ls' : List (List Char)} (h : Alike ls ls') (hls : ∀ l ∈ ls, p l) : ∀ l ∈ ls', p l := by
  induction h with
  | nil => exact hls
  | cons hl _ ih =>
    obtain ⟨hl', hls⟩ := List.forall_mem_cons.mp hls
    exact List.forall_mem_cons.mpr ⟨hp.eq_of_bare_eq hl ▸ hl', ih hls⟩

/-- Line feeds are no part of a margin. -/
theorem IgnoresMargins.not_mem : IgnoresMargins fun l => '\n' ∉ l where
  cons_gap c l hc := by
    have hne : '\n' ≠ c := by
      rintro rfl
      cases hc
    rw [List.mem_cons, eq_false hne, false_or]
  concat_return l := by simp

/-- The lines of a text are those between its line feeds, but for their margins and for an empty
line at the end. -/
theorem alike_lines (s : List Char) :
    ∃ ls, Alike (lines s) ls ∧ (s.splitOn '\n' = ls ∨ s.splitOn '\n' = ls ++ [[]]) := by
  obtain ⟨front, last, hparts⟩ : ∃ front last, s.splitOn '\n' = front ++ [last] :=
    ⟨_, _, (List.dropLast_concat_getLast (List.splitOn_ne_nil '\n' s)).symm⟩
  have hdrop : Alike (front.map dropReturn) front :=
    List.forall₂_map_left_iff.mpr (List.forall₂_same.mpr fun l _ =>
      bare_ignoresMargins.dropReturn_eq l)
  simp only [lines, hparts, List.dropLast_concat, List.getLast?_concat, Option.getD_some]
  cases last with
  | nil => exact ⟨front, by simpa using hdrop, .inr rfl⟩
  | cons c last => exact ⟨front ++ [c :: last], List.rel_append hdrop (Alike.refl _), .inl rfl⟩

theorem forall_mem_lines {p : List Char → Prop} (hp : IgnoresMargins p) {s : List Char}
    (h : ∀ l ∈ s.splitOn '\n', p l) : ∀ l ∈ lines s, p l := by
  obtain ⟨ls, halike, hparts⟩ := alike_lines s
  refine halike.symm.forall_mem hp fun l hl => h l ?_
  rcases hparts with hparts | hparts
  · exact hparts ▸ hl
  · exact hparts ▸ List.mem_append_left _ hl

theorem not_mem_of_mem_lines (s : List Char) : ∀ l ∈ lines s, '\n' ∉ l :=
  forall_mem_lines .not_mem (not_mem_of_mem_splitOn s)

/-! ## Trimming -/

namespace IgnoresMargins

/-- Whether a line is blank does not depend on its margins. -/
theorem forall_isBlank : IgnoresMargins fun l => ∀ c ∈ l, isBlank c = true where
  cons_gap c l hc := by
    rw [List.forall_mem_cons, eq_true (isBlank_of_isGap hc), true_and]
  concat_return l := by
    have hc : isBlank '\r' = true := by decide
    rw [List.forall_mem_append, List.forall_mem_singleton, eq_true hc, and_true]

theorem bare_trimStart : IgnoresMargins fun l => bare (trimStart l) where
  cons_gap c l hc := by rw [trimStart_cons (isBlank_of_isGap hc)]
  concat_return l := by
    rw [trimStart_append]
    split
    · rename_i h
      rw [h]
      rfl
    · exact bare_ignoresMargins.concat_return _

theorem bare_trimEnd : IgnoresMargins fun l => bare (trimEnd l) where
  cons_gap c l hc := by
    rw [← List.singleton_append, trimEnd_append]
    split
    · rename_i h
      rw [h, trimEnd_eq_nil_iff.mpr (by simpa using isBlank_of_isGap hc)]
    · exact bare_ignoresMargins.cons_gap c _ hc
  concat_return l := by rw [trimEnd_concat (by decide)]

theorem trim : IgnoresMargins trim where
  cons_gap c l hc := by rw [Text.trim, trimStart_cons (isBlank_of_isGap hc), Text.trim]
  concat_return l := trim_concat (by decide) l

end IgnoresMargins

namespace Alike

variable {ls ls' : List (List Char)}

theorem trimFront (h : Alike ls ls') : Alike (trimFront ls) (trimFront ls') := by
  induction h with
  | nil => exact .nil
  | cons hl hls ih =>
    rw [Text.trimFront, Text.trimFront]
    simp only [trimStart_eq_nil_iff, IgnoresMargins.forall_isBlank.eq_of_bare_eq hl]
    split
    · exact ih
    · exact .cons (IgnoresMargins.bare_trimStart.eq_of_bare_eq hl) hls

theorem nil_iff (h : Alike ls ls') : ls = [] ↔ ls' = [] := by
  cases h with
  | nil => rfl
  | cons => exact iff_of_false (List.cons_ne_nil _ _) (List.cons_ne_nil _ _)

theorem trimBack (h : Alike ls ls') : Alike (trimBack ls) (trimBack ls') := by
  induction h with
  | nil => exact .nil
  | cons hl hls ih =>
    rw [Text.trimBack, Text.trimBack]
    simp only [trimEnd_eq_nil_iff, IgnoresMargins.forall_isBlank.eq_of_bare_eq hl, ih.nil_iff]
    split
    · split
      · exact .nil
      · exact .cons (IgnoresMargins.bare_trimEnd.eq_of_bare_eq hl) .nil
    · exact .cons hl ih

theorem trimLines (h : Alike ls ls') : Alike (trimLines ls) (trimLines ls') := h.trimFront.trimBack

end Alike

end GrowthScan.Text
