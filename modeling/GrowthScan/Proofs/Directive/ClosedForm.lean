import GrowthScan.Proofs.Directive.Progress
import Mathlib.Data.List.Induction

/-!
# Which lines are analyzed

A line is analyzed or not for reasons that can be read off the lines in front of
it, without a state that runs along. A line is passed over (`isSkipped`) when an
odd number of directives to ignore the next line stands right in front of it: they
pass over one another in pairs. It lies in a region when, counted from some line
on, more starts than ends have taken effect (`applied`): an end that closes
nothing does not count against later starts.

`skip_run` and `depth_run` say that the state that runs along is just that: the
depth is the greatest surplus of starts over ends among all that end at the line.
`preprocess_eq_filter` is the closed form that follows.
-/

namespace GrowthScan.Directive

/-- Whether line `i` is passed over: directives to ignore the next line, an odd number of them,
stand right in front of it. -/
def isSkipped (lines : List (List Char)) (i : Nat) : Bool :=
  ((lines.take i).reverse.takeWhile fun l => decide (ofLine? l = some nextLine)).length % 2 == 1

/-- How many of the lines from `j` up to `i` hold the directive and are not passed over. -/
def applied (d : Directive) (lines : List (List Char)) (j i : Nat) : Nat :=
  (List.range' j (i - j)).countP fun k =>
    !isSkipped lines k && decide (lines[k]?.bind ofLine? = some d)

section

variable (d : Directive) (lines more : List (List Char)) (line : List Char)

/-! ## What comes later does not matter -/

theorem isSkipped_append {i : Nat} (hi : i ≤ lines.length) :
    isSkipped (lines ++ more) i = isSkipped lines i := by
  rw [isSkipped, isSkipped, List.take_append_of_le_length hi]

theorem applied_append {i : Nat} (j : Nat) (hi : i ≤ lines.length) :
    applied d (lines ++ more) j i = applied d lines j i := by
  refine List.countP_congr fun k hk => ?_
  have hk : k < lines.length := by
    have := List.mem_range'_1.mp hk
    omega
  rw [isSkipped_append _ _ (Nat.le_of_lt hk), List.getElem?_append_left hk]

/-! ## One more line -/

/-- A directive to ignore the next line passes over the next one, unless it is passed over. -/
theorem isSkipped_concat :
    isSkipped (lines ++ [line]) (lines.length + 1) =
      (!isSkipped lines lines.length && decide (ofLine? line = some nextLine)) := by
  have ht : (lines ++ [line]).take (lines.length + 1) = lines ++ [line] :=
    List.take_of_length_le (by simp)
  rw [isSkipped, isSkipped, ht, List.take_length, List.reverse_append, List.reverse_singleton,
    List.singleton_append, List.takeWhile_cons]
  cases h : decide (ofLine? line = some nextLine)
  · rw [if_neg Bool.false_ne_true, Bool.and_false]; rfl
  · rw [if_pos rfl, List.length_cons, Bool.and_true]
    generalize (List.takeWhile _ lines.reverse).length = n
    rcases Nat.mod_two_eq_zero_or_one n with h | h
    · rw [h, show (n + 1) % 2 = 1 by omega]; rfl
    · rw [h, show (n + 1) % 2 = 0 by omega]; rfl

theorem applied_self (i : Nat) : applied d lines i i = 0 := by
  rw [applied, Nat.sub_self]; rfl

theorem applied_concat {j : Nat} (hj : j ≤ lines.length) :
    applied d (lines ++ [line]) j (lines.length + 1) =
      applied d lines j lines.length +
        (!isSkipped lines lines.length && decide (ofLine? line = some d)).toNat := by
  rw [← applied_append d lines [line] j (Nat.le_refl _), applied, applied,
    show lines.length + 1 - j = lines.length - j + 1 by omega, List.range'_1_concat,
    List.countP_append, show j + (lines.length - j) = lines.length by omega, List.countP_singleton,
    isSkipped_append _ _ (Nat.le_refl _), List.getElem?_concat_length, Option.bind_some]
  cases !isSkipped lines lines.length && decide (ofLine? line = some d) <;> rfl

end

/-! ## The state that runs along -/

theorem skip_run {s : Progress} (hs : s.skip = false) (lines : List (List Char)) :
    (s.run lines).skip = isSkipped lines lines.length := by
  induction lines using List.reverseRecOn with
  | nil => exact hs
  | append_singleton lines l ih =>
    rw [Progress.run_concat, List.length_append, List.length_singleton, isSkipped_concat, ← ih]
    rfl

theorem applies_run {s : Progress} (hs : s.skip = false) (d : Directive)
    (lines : List (List Char)) (line : List Char) :
    (s.run lines).applies d line =
      (!isSkipped lines lines.length && decide (ofLine? line = some d)) := by
  rw [Progress.applies, skip_run hs]

/-- One line does not both start and end a region. -/
theorem toNat_applies_le (s : Progress) (line : List Char) :
    (s.applies regionStart line).toNat + (s.applies regionEnd line).toNat ≤ 1 := by
  unfold Progress.applies
  by_cases h : ofLine? line = some regionStart
  · rw [h]; cases s.skip <;> decide
  · rw [decide_eq_false h, Bool.and_false, Bool.toNat_false, Nat.zero_add]
    exact Bool.toNat_le _

/-- The depth is the greatest surplus of starts over ends among the runs of lines that end here. -/
theorem depth_run (lines : List (List Char)) :
    (∀ j ≤ lines.length, applied regionStart lines j lines.length ≤
      applied regionEnd lines j lines.length + (Progress.start.run lines).depth) ∧
    ∃ j ≤ lines.length, applied regionStart lines j lines.length =
      applied regionEnd lines j lines.length + (Progress.start.run lines).depth := by
  induction lines using List.reverseRecOn with
  | nil =>
    refine ⟨fun j hj => ?_, 0, Nat.le_refl _, rfl⟩
    rw [Nat.le_zero.mp hj]
    exact Nat.le_refl _
  | append_singleton lines l ih =>
    obtain ⟨hle, j₀, hj₀, heq⟩ := ih
    have hone := toNat_applies_le (Progress.start.run lines) l
    rw [Progress.run_concat, List.length_append, List.length_singleton]
    simp only [Progress.step]
    rw [applies_run rfl, applies_run rfl] at hone ⊢
    refine ⟨fun j hj => ?_, ?_⟩
    · rcases Nat.lt_or_ge lines.length j with hlt | hge
      · rw [show j = lines.length + 1 by omega, applied_self]
        exact Nat.zero_le _
      · have := hle j hge
        rw [applied_concat _ _ _ hge, applied_concat _ _ _ hge]
        omega
    · -- an end outside every region leaves nothing open, which the empty run of lines shows
      by_cases hz : (Progress.start.run lines).depth = 0 ∧
          (!isSkipped lines lines.length && decide (ofLine? l = some regionEnd)) = true
      · refine ⟨lines.length + 1, Nat.le_refl _, ?_⟩
        rw [hz.2] at hone ⊢
        rw [applied_self, applied_self, hz.1]
        simp only [Bool.toNat_true] at hone ⊢
        omega
      · refine ⟨j₀, by omega, ?_⟩
        rw [applied_concat _ _ _ hj₀, applied_concat _ _ _ hj₀]
        cases hc : (!isSkipped lines lines.length && decide (ofLine? l = some regionEnd))
        · simp only [Bool.toNat_false]; omega
        · rw [hc] at hone
          simp only [Bool.toNat_true] at hone ⊢
          have : (Progress.start.run lines).depth ≠ 0 := fun h => hz ⟨h, hc⟩
          omega

/-! ## The closed form -/

/-- Line `i` is analyzed: it holds no directive, is not passed over, and from no line on have more
regions started than ended. -/
def IsAnalyzed (lines : List (List Char)) (i : Nat) : Prop :=
  lines[i]?.bind ofLine? = none ∧ isSkipped lines i = false ∧
    ∀ j ≤ i, applied regionStart lines j i ≤ applied regionEnd lines j i

instance (lines : List (List Char)) (i : Nat) : Decidable (IsAnalyzed lines i) :=
  inferInstanceAs (Decidable (_ ∧ _ ∧ ∀ j ≤ i, _))

theorem isAnalyzed_append {lines : List (List Char)} (more : List (List Char)) {i : Nat}
    (hi : i < lines.length) : IsAnalyzed (lines ++ more) i ↔ IsAnalyzed lines i := by
  have hi' := Nat.le_of_lt hi
  simp only [IsAnalyzed, List.getElem?_append_left hi, isSkipped_append _ _ hi',
    applied_append _ _ _ _ hi']

theorem keeps_run_iff (lines : List (List Char)) (line : List Char) :
    (Progress.start.run lines).keeps line = true ↔ IsAnalyzed (lines ++ [line]) lines.length := by
  obtain ⟨hle, j₀, hj₀, heq⟩ := depth_run lines
  have hd : (Progress.start.run lines).depth = 0 ↔ ∀ j ≤ lines.length,
      applied regionStart lines j lines.length ≤ applied regionEnd lines j lines.length := by
    refine ⟨fun h j hj => ?_, fun h => ?_⟩
    · have := hle j hj
      omega
    · have := h j₀ hj₀
      omega
  simp only [Progress.keeps, skip_run (s := .start) rfl, IsAnalyzed, Bool.and_eq_true,
    Bool.not_eq_true', decide_eq_true_eq, List.getElem?_concat_length, Option.bind_some,
    isSkipped_append _ _ (Nat.le_refl _), applied_append _ _ _ _ (Nat.le_refl _), hd]
  constructor
  · rintro ⟨⟨hskip, hnone⟩, hopen⟩
    exact ⟨hnone, hskip, hopen⟩
  · rintro ⟨hnone, hskip, hopen⟩
    exact ⟨⟨hskip, hnone⟩, hopen⟩

theorem kept_start (lines : List (List Char)) :
    Progress.start.kept lines =
      (lines.zipIdx.filter fun p => decide (IsAnalyzed lines p.2)).map Prod.fst := by
  induction lines using List.reverseRecOn with
  | nil => rfl
  | append_singleton lines l ih =>
    have hfront : lines.zipIdx.filter (fun p => decide (IsAnalyzed (lines ++ [l]) p.2)) =
        lines.zipIdx.filter (fun p => decide (IsAnalyzed lines p.2)) := by
      refine List.filter_congr fun p hp => ?_
      have hi : p.2 < lines.length := by simpa using List.snd_lt_of_mem_zipIdx hp
      simp only [isAnalyzed_append [l] hi]
    rw [Progress.kept_concat, ih, List.zipIdx_append, List.filter_append, List.map_append, hfront]
    congr 1
    rw [List.zipIdx_singleton, Nat.zero_add]
    by_cases h : IsAnalyzed (lines ++ [l]) lines.length
    · rw [if_pos ((keeps_run_iff lines l).mpr h), List.filter_cons_of_pos (by simpa using h)]
      rfl
    · rw [if_neg fun hk => h ((keeps_run_iff lines l).mp hk),
        List.filter_cons_of_neg (by simpa using h)]
      rfl

/-- What is analyzed of a text: nothing where a line asks to ignore the file, wherever that line
stands; else the lines that are analyzed, in order. -/
theorem preprocess_eq_filter (content : List Char) :
    let lines := Text.lines content
    preprocess content =
      if ∃ l ∈ lines, ofLine? l = some file then none
      else some (Text.joinLines
        ((lines.zipIdx.filter fun p => decide (IsAnalyzed lines p.2)).map Prod.fst)) := by
  intro lines
  have hf : ignoresFile lines = true ↔ ∃ l ∈ lines, ofLine? l = some file := by
    simp only [ignoresFile, List.any_eq_true, decide_eq_true_eq]
  by_cases h : ∃ l ∈ lines, ofLine? l = some file
  · rw [if_pos h, preprocess]
    exact if_pos (hf.mpr h)
  · rw [if_neg h, ← kept_start, preprocess]
    exact if_neg fun hn => h (hf.mp hn)

/-- An end that closes nothing does not count against the start that follows. -/
example : preprocess "bigo ignore end\nbigo ignore start\na\nbigo ignore end\nb".toList =
    some "b".toList := by decide +kernel

end GrowthScan.Directive
