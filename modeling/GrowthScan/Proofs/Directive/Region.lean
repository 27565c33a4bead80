import GrowthScan.Proofs.Directive.ClosedForm

/-!
# Regions hide what is inside them

Lines between a start and an end leave no trace outside, as long as the directives
that take effect among them are balanced (`Balanced`) and the end itself takes
effect. `run_balanced` says that such lines lead back to where they began, and
`kept_of_ends_le` that nothing is kept on the way; with the start and the end around
them, `preprocess_region` leaves out the whole region.

It matters which directives take effect: a directive to ignore the next line works
inside a region too, and passes over a start or an end like any other line
(`not_preprocess_region_of_held`).
-/

namespace GrowthScan.Directive

/-- Along the lines, the directives that take effect never end more regions than they started. -/
def EndsLeStarts (lines : List (List Char)) : Prop :=
  ∀ i ≤ lines.length, applied regionEnd lines 0 i ≤ applied regionStart lines 0 i

instance (lines : List (List Char)) : Decidable (EndsLeStarts lines) :=
  inferInstanceAs (Decidable (∀ i ≤ lines.length, _))

/-- The directives that take effect end the regions that they started, and no others. -/
structure Balanced (lines : List (List Char)) : Prop where
  ends_le : EndsLeStarts lines
  ends_eq : applied regionEnd lines 0 lines.length = applied regionStart lines 0 lines.length

/-! ## Inside a region -/

theorem EndsLeStarts.of_concat {lines : List (List Char)} {line : List Char}
    (h : EndsLeStarts (lines ++ [line])) : EndsLeStarts lines := by
  intro i hi
  have := h i (by rw [List.length_append]; omega)
  rwa [applied_append _ _ _ _ hi, applied_append _ _ _ _ hi] at this

section

variable {s : Progress} (hs : s.skip = false)

include hs

/-- Lines that never end more regions than they start add their surplus of starts to the depth. -/
theorem depth_run_of_ends_le (lines : List (List Char)) (h : EndsLeStarts lines) :
    (s.run lines).depth + applied regionEnd lines 0 lines.length =
      s.depth + applied regionStart lines 0 lines.length := by
  induction lines using List.reverseRecOn with
  | nil => rfl
  | append_singleton lines l ih =>
    have hd := ih h.of_concat
    have hle := h.of_concat lines.length (Nat.le_refl _)
    have hl := h (lines.length + 1) (by simp)
    rw [Progress.run_concat, List.length_append, List.length_singleton]
    simp only [Progress.step]
    rw [applied_concat _ _ _ (Nat.zero_le _), applied_concat _ _ _ (Nat.zero_le _)] at hl ⊢
    rw [applies_run hs, applies_run hs]
    omega

/-- Balanced lines lead back to where they began, unless they pass over the line that follows. -/
theorem run_balanced {lines : List (List Char)} (hb : Balanced lines)
    (hl : isSkipped lines lines.length = false) : s.run lines = s := by
  have hd := depth_run_of_ends_le hs lines hb.ends_le
  rw [hb.ends_eq] at hd
  ext1
  · omega
  · rw [skip_run hs, hl, hs]

/-- Inside a region nothing is kept, as long as no more regions are ended than started there. -/
theorem kept_of_ends_le (hd : 0 < s.depth) (lines : List (List Char)) (h : EndsLeStarts lines) :
    s.kept lines = [] := by
  induction lines using List.reverseRecOn with
  | nil => rfl
  | append_singleton lines l ih =>
    have hrun := depth_run_of_ends_le hs lines h.of_concat
    have hle := h.of_concat lines.length (Nat.le_refl _)
    have hkeep : (s.run lines).keeps l = false := by
      rw [Progress.keeps, decide_eq_false (show ¬(s.run lines).depth = 0 by omega), Bool.and_false]
    rw [Progress.kept_concat, ih h.of_concat, hkeep]
    rfl

end

/-! ## The region as a whole -/

/-- A start, balanced lines and an end are as good as nothing. -/
theorem kept_region {s : Progress} (hs : s.skip = false) {first last : List Char}
    {inside : List (List Char)} (hf : ofLine? first = some regionStart)
    (hl : ofLine? last = some regionEnd) (hb : Balanced inside)
    (hi : isSkipped inside inside.length = false) (after : List (List Char)) :
    s.kept (first :: inside ++ last :: after) = s.kept after := by
  have hstep : s.step first = ⟨s.depth + 1, false⟩ := by
    simp [Progress.step, Progress.applies, hs, hf]
  have hback : (s.step first).step last = s := by
    rw [hstep]
    ext1
    · simp [Progress.step, Progress.applies, hl]
    · simp [Progress.step, Progress.applies, hl, hs]
  have hskip : (s.step first).skip = false := by rw [hstep]
  have hin : (s.step first).kept inside = [] :=
    kept_of_ends_le hskip (by rw [hstep]; exact Nat.succ_pos _) inside hb.ends_le
  have hfirst : s.keeps first = false := by simp [Progress.keeps, hf]
  have hlast : (s.step first).keeps last = false := by simp [Progress.keeps, hl]
  rw [List.cons_append, Progress.kept_cons, Progress.kept_append, Progress.kept_cons, hin,
    run_balanced hskip hb hi, hback, hfirst, hlast]
  rfl

theorem preprocess_eq_of_lines {content : List Char} {lines : List (List Char)}
    (h : Text.lines content = lines) :
    preprocess content =
      if ignoresFile lines then none else some (Text.joinLines (Progress.start.kept lines)) := by
  rw [← h]
  rfl

/-- A text with a region in it is analyzed as the text without the region, if neither the lines in
front of it nor those inside pass over the line that follows, and the inside is balanced and does
not ask to ignore the file. -/
theorem preprocess_region {before inside after : List (List Char)} {first last : List Char}
    {content rest : List Char} (hf : ofLine? first = some regionStart)
    (hl : ofLine? last = some regionEnd) (hbefore : isSkipped before before.length = false)
    (hb : Balanced inside) (hi : isSkipped inside inside.length = false)
    (hfile : ∀ l ∈ inside, ofLine? l ≠ some file)
    (hc : Text.lines content = before ++ first :: inside ++ last :: after)
    (hr : Text.lines rest = before ++ after) :
    preprocess content = preprocess rest := by
  have hin : ignoresFile inside = false := by
    simpa [ignoresFile] using hfile
  have hsame : ignoresFile (before ++ first :: inside ++ last :: after) =
      ignoresFile (before ++ after) := by
    simp only [ignoresFile, List.any_append, List.any_cons, hf, hl] at hin ⊢
    simp [hin]
  have hkept : Progress.start.kept (before ++ first :: inside ++ last :: after) =
      Progress.start.kept (before ++ after) := by
    have hskip : (Progress.start.run before).skip = false := by rw [skip_run rfl, hbefore]
    rw [List.append_assoc, Progress.kept_append _ before, Progress.kept_append _ before,
      kept_region hskip hf hl hb hi]
  rw [preprocess_eq_of_lines hc, preprocess_eq_of_lines hr, hsame, hkept]

/-- Two directives to ignore the next line stand in front of the region and pass over one another;
one inside passes over an end, so that the next end is the one that counts. -/
theorem preprocess_region_nested :
    preprocess ("bigo ignore line\nbigo ignore line\n# bigo ignore start\nbigo ignore start\n" ++
      "bigo ignore line\nbigo ignore end\na\nbigo ignore end\n# bigo ignore end\nb").toList =
      preprocess "bigo ignore line\nbigo ignore line\nb".toList :=
  @preprocess_region ["bigo ignore line".toList, "bigo ignore line".toList]
    ["bigo ignore start".toList, "bigo ignore line".toList, "bigo ignore end".toList, "a".toList,
      "bigo ignore end".toList]
    ["b".toList] "# bigo ignore start".toList "# bigo ignore end".toList _ _ (by decide) (by decide)
    (by decide) ⟨by decide, by decide⟩ (by decide) (by decide) (by decide +kernel)
    (by decide +kernel)

/-- How many of the lines hold the directive, in effect or not. -/
def held (d : Directive) (lines : List (List Char)) : Nat :=
  lines.countP fun l => decide (ofLine? l = some d)

/-- Starts and ends that are balanced line by line do not make a region. Inside this one, the only
line passes over the end. -/
theorem not_preprocess_region_of_held :
    ¬∀ (before inside after : List (List Char)) (first last content rest : List Char),
      ofLine? first = some regionStart → ofLine? last = some regionEnd →
      (∀ l ∈ before ++ inside ++ after, ofLine? l ≠ some file) →
      isSkipped before before.length = false →
      (∀ i ≤ inside.length, held regionEnd (inside.take i) ≤ held regionStart (inside.take i)) →
      held regionEnd inside = held regionStart inside →
      Text.lines content = before ++ first :: inside ++ last :: after →
      Text.lines rest = before ++ after → preprocess content = preprocess rest := by
  intro h
  have := h [] ["bigo ignore line".toList] ["a".toList] "bigo ignore start".toList
    "bigo ignore end".toList "bigo ignore start\nbigo ignore line\nbigo ignore end\na".toList
    "a".toList (by decide) (by decide) (by decide) (by decide) (by decide) (by decide)
    (by decide +kernel) (by decide +kernel)
  revert this
  decide +kernel

/-- Nor do they if the end takes effect: here a start inside is passed over, and its end is not. -/
example :
    preprocess ("bigo ignore start\nbigo ignore line\nbigo ignore start\nbigo ignore end\n" ++
      "a\nbigo ignore end").toList = some "a".toList := by decide +kernel

end GrowthScan.Directive
