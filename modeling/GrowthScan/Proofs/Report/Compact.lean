import GrowthScan.Proofs.Report.Table

/-!
# One line for a report

The path on the line of a report is not escaped, and it may hold anything: tabs, line breaks, even
what looks like the rest of another line. So the line is read from its end. A label
ends with a parenthesis, which tells it from the mark behind it (`Growth.label_append_mark_inj`), and
has no tab, so that the last two tabs of the line are the ones that stand between its parts
(`Text.append_cons_inj_of_not_mem`). Reports with the same line then have the same path, the
same classes and the same mark (`Report.compact_eq_iff`).
-/

namespace GrowthScan

/-! ## The last part of the line -/

namespace Growth

theorem tab_not_mem_label (g : Growth) : '\t' ∉ g.label.toList := by
  have hdigit : ∀ c : Char, c.isDigit = true → decide (c ≠ '\t') = true := by
    intro c hc
    rw [decide_eq_true_eq]
    rintro rfl
    cases hc
  intro htab
  exact of_decide_eq_true (all_label (by decide) (by decide) hdigit g _ htab) rfl

theorem getLast?_label (g : Growth) : g.label.toList.getLast? = some ')' := by
  rcases mem_ranked_or g with hg | ⟨d, rfl⟩
  · revert g
    decide
  · rw [toList_label_polynomial, List.getLast?_append, List.getLast?_append]
    rfl

end Growth

namespace Report

/-- The mark of a report that exceeds a ceiling, at the end of its line. -/
def mark (exceeded : Bool) : List Char := if exceeded then [' ', '!'] else []

theorem compact_eq (r : Report) :
    r.compact = (r.path.toList ++ '\t' :: r.analysis.time.label.toList) ++
      '\t' :: (r.analysis.space.label.toList ++ mark r.isViolation) := by
  simp [compact, mark]

theorem tab_not_mem_mark (exceeded : Bool) : '\t' ∉ mark exceeded := by
  cases exceeded <;> decide

/-- The mark ends with what no label ends with, so that both are known from the text. -/
theorem label_append_mark_inj {g h : Growth} {b c : Bool} :
    g.label.toList ++ mark b = h.label.toList ++ mark c ↔ g = h ∧ b = c := by
  constructor
  · intro heq
    have hlast (g : Growth) (b : Bool) :
        (g.label.toList ++ mark b).getLast? = some (if b then '!' else ')') := by
      rw [List.getLast?_append, g.getLast?_label]
      cases b <;> rfl
    have hmark := hlast g b
    rw [heq, hlast] at hmark
    have hbc : b = c := by
      cases b <;> cases c <;> simp at hmark <;> rfl
    subst hbc
    exact ⟨Growth.label_injective (String.toList_injective (List.append_cancel_right heq)), rfl⟩
  · rintro ⟨rfl, rfl⟩
    rfl

/-! ## The line -/

/-- Two reports have the same line just if they have the same path, the same classes of time and
space, and both exceed a ceiling or neither does. -/
theorem compact_eq_iff {r s : Report} :
    r.compact = s.compact ↔
      r.path = s.path ∧ r.analysis.time = s.analysis.time ∧
        r.analysis.space = s.analysis.space ∧ r.isViolation = s.isViolation := by
  have hback (r : Report) : '\t' ∉ r.analysis.space.label.toList ++ mark r.isViolation := by
    rw [List.mem_append, not_or]
    exact ⟨r.analysis.space.tab_not_mem_label, tab_not_mem_mark _⟩
  rw [compact_eq, compact_eq, Text.append_cons_inj_of_not_mem (hback r) (hback s),
    Text.append_cons_inj_of_not_mem (Growth.tab_not_mem_label _) (Growth.tab_not_mem_label _),
    label_append_mark_inj, String.toList_inj, String.toList_inj, Growth.label_injective.eq_iff,
    and_assoc]

end Report

end GrowthScan
