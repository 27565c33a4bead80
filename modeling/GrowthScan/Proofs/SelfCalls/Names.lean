import GrowthScan.Proofs.SelfCalls.Count

/-!
# Whose calls are counted

The call of a declared function is looked for as text, so that a call of another function whose
name ends in the declared one counts as well. There is nothing else that counts: what
stands in front of a counted parenthesis is the name as a whole word, or a longer name
(`countP_suffix_eq`). The header's own place is one of the whole name
(`Declaration.ownCalls_le_count`). So recursion is found just where the function itself is called
besides its declaration, or a longer name that ends in its name is
(`Snippet.isRecursive_iff_calledNames`).
-/

namespace GrowthScan

open Text (calledNames occurrences)

/-- Names that end in a name are that name itself or longer ones. -/
theorem countP_suffix_eq (name : List Char) (names : List (List Char)) :
    (names.countP fun w => decide (name <:+ w)) =
      names.count name + names.countP fun w => decide (name <:+ w ∧ w ≠ name) := by
  induction names with
  | nil => rfl
  | cons w names ih =>
    rw [List.countP_cons, List.countP_cons, List.count_cons, ih]
    by_cases hw : w = name
    · simp [hw]; omega
    · by_cases hsuffix : name <:+ w
      · simp [hw, hsuffix]; omega
      · simp [hw, hsuffix]

/-- The header's own place on a line is one of the whole name. -/
theorem Declaration.ownCalls_le_count {code line : List Char} {d : Declaration} {i : Nat}
    (h : find? code = some d) (hline : ((Text.lines code).map Text.trim)[i]? = some line) :
    d.ownCalls i ≤ (calledNames line).count d.name := by
  obtain ⟨own, hown, hcall⟩ := exists_line_of_find? h
  unfold ownCalls
  split
  · rename_i hi
    cases hshape : d.hasCallShape with
    | false => exact Nat.zero_le _
    | true =>
      rw [hi, hown] at hline
      rw [Bool.toNat_true, Nat.succ_le_iff, List.count_pos_iff, ← Option.some.inj hline]
      exact hcall hshape
  · exact Nat.zero_le _

namespace SelfCalls

theorem declaration_scan (code : List Char) (lines : List (List Char)) :
    (scan code lines).declaration = Declaration.find? code := by
  unfold scan
  split
  · rename_i h
    rw [h]
    rfl
  · rename_i h
    rw [h]

theorem isRecursive_ofCode_iff {code : List Char} {d : Declaration}
    (h : Declaration.find? code = some d) : (ofCode code).isRecursive = true ↔
      ∃ i line, ((Text.lines code).map Text.trim)[i]? = some line ∧
        d.ownCalls i < occurrences d.call line := by
  have hany (counts : List Nat) : 0 < counts.sum ↔ counts.any (0 < ·) = true := by
    rw [List.sum_pos_iff_exists_pos_nat, List.any_eq_true]
    simp only [decide_eq_true_eq]
  rw [isRecursive, decide_eq_true_eq, ofCode, scan_eq_of_find? h, hany, any_mapIdx_iff]
  simp only [decide_eq_true_eq, Nat.sub_pos_iff_lt]

end SelfCalls

/-- Recursion is found in a snippet just where the function is called by its whole name besides its
declaration, or a longer name that ends in its name is called. -/
theorem Snippet.isRecursive_iff_calledNames {text : List Char} {d : Declaration}
    (h : (ofText text).selfCalls.declaration = some d) :
    (ofText text).selfCalls.isRecursive = true ↔
      (∃ i line, (ofText text).lines[i]? = some line ∧
        d.ownCalls i < (calledNames line).count d.name) ∨
      ∃ line ∈ (ofText text).lines, ∃ name ∈ calledNames line, d.name <:+ name ∧ name ≠ d.name := by
  rw [selfCalls, SelfCalls.declaration_scan] at h
  have hcalls := SelfCalls.isRecursive_ofCode_iff h
  have hwords := Declaration.isWord_of_find? h
  simp only [Declaration.call, Text.occurrences_call hwords, countP_suffix_eq] at hcalls
  refine hcalls.trans ⟨?_, ?_⟩
  · rintro ⟨i, line, hline, hlt⟩
    -- the header's own place may be among the whole names, so these alone need not exceed it
    by_cases hname : d.ownCalls i < (calledNames line).count d.name
    · exact .inl ⟨i, line, hline, hname⟩
    · have hlonger : 0 < (calledNames line).countP fun w => decide (d.name <:+ w ∧ w ≠ d.name) := by
        omega
      obtain ⟨name, hmem, hsuffix⟩ := List.countP_pos_iff.mp hlonger
      exact .inr ⟨line, List.mem_of_getElem? hline, name, hmem, of_decide_eq_true hsuffix⟩
  · rintro (⟨i, line, hline, hlt⟩ | ⟨line, hline, name, hmem, hsuffix⟩)
    · exact ⟨i, line, hline, by omega⟩
    · -- the longer name is not the header's own place, which a whole name on the line makes up for
      obtain ⟨i, hi⟩ := List.mem_iff_getElem?.mp hline
      have hown := Declaration.ownCalls_le_count h hi
      have hlonger : 0 < (calledNames line).countP fun w => decide (d.name <:+ w ∧ w ≠ d.name) :=
        List.countP_pos_iff.mpr ⟨name, hmem, decide_eq_true hsuffix⟩
      exact ⟨i, line, hi, by omega⟩

/-- The one counted call is of a longer name. -/
theorem Snippet.isRecursive_iff_calledNames_longer :
    let text := "def f(n):\n  printf(n)".toList
    let d : Declaration := ⟨"f".toList, 0, true⟩
    (ofText text).selfCalls.declaration = some d ∧ (ofText text).selfCalls.isRecursive = true ∧
      ((∃ i line, (ofText text).lines[i]? = some line ∧
        d.ownCalls i < (calledNames line).count d.name) ∨
      ∃ line ∈ (ofText text).lines, ∃ name ∈ calledNames line,
        d.name <:+ name ∧ name ≠ d.name) := by
  intro text d
  have hd : (ofText text).selfCalls.declaration = some d := by decide +kernel
  have hrecursive : (ofText text).selfCalls.isRecursive = true := by decide +kernel
  exact ⟨hd, hrecursive, (isRecursive_iff_calledNames hd).mp hrecursive⟩

/-- Recursion may be found where the function is not called by its whole name. -/
theorem Snippet.not_forall_calls_whole_name :
    ¬ ∀ (text : List Char) (d : Declaration), (ofText text).selfCalls.declaration = some d →
      (ofText text).selfCalls.isRecursive = true →
        ∃ i line, (ofText text).lines[i]? = some line ∧
          d.ownCalls i < (calledNames line).count d.name := by
  intro hall
  let text := "def f(n):\n  printf(n)".toList
  let d : Declaration := ⟨"f".toList, 0, true⟩
  have hnone : ∀ (i : Nat) (hi : i < (ofText text).lines.length),
      ¬ d.ownCalls i < (calledNames (ofText text).lines[i]).count d.name := by decide +kernel
  obtain ⟨i, line, hline, hlt⟩ := hall text d (by decide +kernel) (by decide +kernel)
  obtain ⟨hi, rfl⟩ := List.getElem?_eq_some_iff.mp hline
  exact hnone i hi hlt

end GrowthScan
