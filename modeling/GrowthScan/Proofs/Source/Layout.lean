import GrowthScan.Proofs.Analysis.Margins
import GrowthScan.Proofs.Directive.Margins
import GrowthScan.Source

/-!
# The layout of a source

What is analyzed of a source is settled by the pieces between its line feeds, and
only up to their margins (`analyzeSource_eq_of_alike`): a source may be indented
in any way (`analyzeSource_indented`) and its lines may end with carriage returns
or not (`analyzeSource_withReturns`).

The text that is left of a source without its ignored lines is no fixed point: read
again, it loses another carriage return on each line. But it holds no
directive, and its analysis is that of the source (`analyzeSource_of_preprocess`).
-/

namespace GrowthScan

namespace Text

/-- The text with a carriage return in front of each line feed. -/
def withReturns (s : List Char) : List Char :=
  s.flatMap fun c => if c = '\n' then ['\r', '\n'] else [c]

/-- The text with `indents i` in front of its line `i`. -/
def indented (indents : Nat → List Char) (s : List Char) : List Char :=
  joinLines ((s.splitOn '\n').mapIdx fun i l => indents i ++ l)

theorem withReturns_eq_self {l : List Char} (h : '\n' ∉ l) : withReturns l = l := by
  have hchar : ∀ c ∈ l, (if c = '\n' then ['\r', '\n'] else [c]) = [c] := by
    intro c hc
    exact if_neg (ne_of_mem_of_not_mem hc h)
  rw [withReturns, List.flatMap_congr hchar, List.flatMap_singleton']

theorem withReturns_append_cons {l : List Char} (h : '\n' ∉ l) (s : List Char) :
    withReturns (l ++ '\n' :: s) = (l ++ ['\r']) ++ '\n' :: withReturns s := by
  rw [withReturns, List.flatMap_append, List.flatMap_cons, ← withReturns, ← withReturns,
    withReturns_eq_self h]
  simp

theorem alike_splitOn_withReturns (s : List Char) :
    Alike (s.splitOn '\n') ((withReturns s).splitOn '\n') := by
  induction s using line_induction with
  | line l hl => rw [withReturns_eq_self hl]; exact Alike.refl _
  | append l s hl ih =>
    rw [withReturns_append_cons hl, List.splitOn_append_cons_self_of_not_mem hl,
      List.splitOn_append_cons_self_of_not_mem (by simpa using hl)]
    exact .cons (bare_ignoresMargins.concat_return l).symm ih

theorem bare_append {indent : List Char} (h : ∀ c ∈ indent, isGap c = true) (l : List Char) :
    bare (indent ++ l) = bare l := by
  rw [bare, List.dropWhile_append_of_pos h, bare]

theorem alike_splitOn_indented {indents : Nat → List Char}
    (h : ∀ i, ∀ c ∈ indents i, isGap c = true) (s : List Char) :
    Alike (s.splitOn '\n') ((indented indents s).splitOn '\n') := by
  have hbreak (i : Nat) : '\n' ∉ indents i := fun hc => absurd (h i _ hc) (by decide)
  have hlines : ∀ l ∈ (s.splitOn '\n').mapIdx fun i l => indents i ++ l, '\n' ∉ l := by
    intro l hl
    obtain ⟨i, hi, rfl⟩ := List.mem_mapIdx.mp hl
    rw [List.mem_append, not_or]
    exact ⟨hbreak i, not_mem_of_mem_splitOn s _ (List.getElem_mem hi)⟩
  rw [indented, joinLines, List.splitOn_intercalate _ hlines (by simp)]
  refine List.forall₂_iff_get.mpr ⟨by simp, fun i h₁ h₂ => ?_⟩
  simpa using (bare_append (h i) _).symm

end Text

/-! ## What is left of a source -/

namespace Analysis

/-- An analysis reads no more of a text than trimming leaves. -/
theorem ofCode_eq_of_trim_eq {a b : List Char} (h : Text.trim a = Text.trim b) :
    ofCode a = ofCode b := by
  rw [ofCode, ofCode, Snippet.ofText, Snippet.ofText, h]

end Analysis

/-- The analysis of the code that is left of a source. -/
def analyzeCode (origin : String) (code : List Char) : Except Error (Option Analysis) :=
  if (Text.trim code).isEmpty then .error (.emptySource origin)
  else .ok (some (Analysis.ofCode code))

section

open Directive Text

variable {origin : String}

theorem analyzeCode_eq_of_trim_eq {a b : List Char} (h : trim a = trim b) :
    analyzeCode origin a = analyzeCode origin b := by
  rw [analyzeCode, analyzeCode, h, Analysis.ofCode_eq_of_trim_eq h]

theorem analyzeCode_eq_of_alike {ls ls' : List (List Char)} (hls : ∀ l ∈ ls, '\n' ∉ l)
    (h : Alike ls ls') : analyzeCode origin (joinLines ls) = analyzeCode origin (joinLines ls') := by
  have hempty : (trim (joinLines ls)).isEmpty = (trim (joinLines ls')).isEmpty := by
    rw [Bool.eq_iff_iff, List.isEmpty_iff, List.isEmpty_iff, trim_joinLines_eq_nil_iff,
      trim_joinLines_eq_nil_iff, h.trimLines.nil_iff]
  rw [analyzeCode, analyzeCode, hempty, Analysis.ofCode_eq_of_alike hls h]

/-- An empty line at the end does not matter. -/
theorem analyzeCode_concat_nil (ls : List (List Char)) :
    analyzeCode origin (joinLines (ls ++ [[]])) = analyzeCode origin (joinLines ls) := by
  by_cases hls : ls = []
  · rw [hls]
    rfl
  · rw [joinLines_concat hls, analyzeCode_eq_of_trim_eq (trim_concat (by decide) _)]

theorem analyzeSource_of_eq_some {content code : List Char} (h : preprocess content = some code) :
    analyzeSource content origin = analyzeCode origin code := by
  rw [analyzeSource, h, analyzeCode]

/-- A source is analyzed by the pieces between its line feeds. -/
theorem analyzeSource_eq (content : List Char) :
    analyzeSource content origin =
      if ignoresFile (content.splitOn '\n') then .ok none
      else analyzeCode origin (joinLines (Progress.start.kept (content.splitOn '\n'))) := by
  obtain ⟨ls, halike, hparts⟩ := alike_lines content
  have hfile : ignoresFile (lines content) = ignoresFile (content.splitOn '\n') := by
    rw [ignoresFile_eq_of_alike halike]
    rcases hparts with hparts | hparts
    · rw [hparts]
    · have hnil : ofLine? [] ≠ some file := by decide
      simp [hparts, ignoresFile, hnil]
  have hkept : analyzeCode origin (joinLines (Progress.start.kept (lines content))) =
      analyzeCode origin (joinLines (Progress.start.kept (content.splitOn '\n'))) := by
    rw [analyzeCode_eq_of_alike (fun l hl => not_mem_of_mem_lines _ l (Progress.mem_kept hl).1)
      (Progress.kept_alike halike .start)]
    rcases hparts with hparts | hparts
    · rw [hparts]
    · -- the empty piece behind the last line feed is no line, but it may be kept
      rw [hparts, Progress.kept_concat]
      split
      · exact (analyzeCode_concat_nil _).symm
      · rw [List.append_nil]
  by_cases h : ignoresFile (content.splitOn '\n') = true
  · rw [if_pos h, analyzeSource, preprocess, if_pos (hfile.trans h)]
  · rw [if_neg h, ← hkept]
    exact analyzeSource_of_eq_some (if_neg (hfile ▸ h))

theorem analyzeSource_eq_of_alike {content content' : List Char}
    (h : Alike (content.splitOn '\n') (content'.splitOn '\n')) :
    analyzeSource content origin = analyzeSource content' origin := by
  have hkept : ∀ l ∈ Progress.start.kept (content.splitOn '\n'), '\n' ∉ l := fun l hl =>
    not_mem_of_mem_splitOn content l (Progress.mem_kept hl).1
  rw [analyzeSource_eq, analyzeSource_eq, ignoresFile_eq_of_alike h,
    analyzeCode_eq_of_alike hkept (Progress.kept_alike h .start)]

/-- No piece of the text that is left holds a directive. -/
theorem ofLine?_of_mem_splitOn {content code : List Char} (h : preprocess content = some code) :
    ∀ l ∈ code.splitOn '\n', ofLine? l = none := by
  have hkept : code = joinLines (Progress.start.kept (lines content)) := by
    rw [preprocess] at h
    split at h
    · cases h
    · exact (Option.some.inj h).symm
  have hbreak : ∀ l ∈ Progress.start.kept (lines content), '\n' ∉ l := fun l hl =>
    not_mem_of_mem_lines content l (Progress.mem_kept hl).1
  intro l hl
  rcases mem_or_eq_nil_of_mem_splitOn hbreak (hkept ▸ hl) with hl | rfl
  · exact (Progress.mem_kept hl).2
  · decide

/-! ## Layouts that make no difference -/

/-- Carriage returns in front of the line feeds make no difference. -/
theorem analyzeSource_withReturns (content : List Char) (origin : String) :
    analyzeSource (withReturns content) origin = analyzeSource content origin :=
  (analyzeSource_eq_of_alike (alike_splitOn_withReturns content)).symm

/-- Gaps in front of the lines make no difference. What follows the last line feed counts as a line
here, so that also a text that ends with one may have gaps at its end. -/
theorem analyzeSource_indented (content : List Char) (origin : String)
    {indents : Nat → List Char} (h : ∀ i, ∀ c ∈ indents i, isGap c = true) :
    analyzeSource (indented indents content) origin = analyzeSource content origin :=
  (analyzeSource_eq_of_alike (alike_splitOn_indented h content)).symm

/-- The keyword that leads the header moves with the indent, and the type words do not. -/
theorem analyzeSource_indented_header :
    let content := "function f(n)\nreturn f(n - 1)\nend".toList
    let indents := fun i => if i = 0 then " \t".toList else []
    (∀ i, ∀ c ∈ indents i, isGap c = true) ∧
      indented indents content = " \tfunction f(n)\nreturn f(n - 1)\nend".toList ∧
      analyzeSource (indented indents content) "f.lua" = analyzeSource content "f.lua" := by
  intro content indents
  have h : ∀ i, ∀ c ∈ indents i, isGap c = true := by
    intro i
    by_cases hi : i = 0
    · rw [hi]
      exact List.forall_mem_cons.mpr ⟨by decide, List.forall_mem_singleton.mpr (by decide)⟩
    · simp [indents, hi]
  exact ⟨h, by decide +kernel, analyzeSource_indented content "f.lua" h⟩

/-- What is left of a source without its ignored lines holds no directive, and has the same analysis
as the source: either there is one, or both are empty. -/
theorem analyzeSource_of_preprocess {content code : List Char} (origin : String)
    (h : preprocess content = some code) :
    (∀ line ∈ lines code, ofLine? line = none) ∧
      ((∃ analysis, analyzeSource code origin = .ok (some analysis) ∧
          analyzeSource content origin = .ok (some analysis)) ∨
        (analyzeSource code origin = .error (.emptySource origin) ∧
          analyzeSource content origin = .error (.emptySource origin))) := by
  have hpieces := ofLine?_of_mem_splitOn h
  have hlines : ∀ line ∈ lines code, ofLine? line = none :=
    forall_mem_lines (ofLine?_ignoresMargins.comp (· = none)) hpieces
  refine ⟨hlines, ?_⟩
  have hcode : analyzeSource code origin = analyzeCode origin code := by
    have hfile : ¬ ignoresFile (code.splitOn '\n') = true := by
      rw [ignoresFile, List.any_eq_true]
      rintro ⟨l, hl, hd⟩
      rw [hpieces l hl] at hd
      cases hd
    rw [analyzeSource_eq, if_neg hfile, Progress.kept_of_forall hpieces, joinLines,
      List.intercalate_splitOn]
  rw [hcode, analyzeSource_of_eq_some h, analyzeCode]
  split
  · exact .inr ⟨rfl, rfl⟩
  · exact .inl ⟨_, rfl, rfl⟩

/-- A line that is left loses one of two returns each time the text is read. -/
theorem analyzeSource_of_preprocess_returns :
    let content := "def f(n):\r\r\n# bigo ignore line\n return f(n/2)\r\n return f(n - 1)\r\r\n".toList
    let code := "def f(n):\r\n return f(n - 1)\r".toList
    preprocess content = some code ∧ preprocess code ≠ some code ∧
      (∀ line ∈ lines code, ofLine? line = none) ∧
        ((∃ analysis, analyzeSource code "f.py" = .ok (some analysis) ∧
            analyzeSource content "f.py" = .ok (some analysis)) ∨
          (analyzeSource code "f.py" = .error (.emptySource "f.py") ∧
            analyzeSource content "f.py" = .error (.emptySource "f.py"))) := by
  intro content code
  have h : preprocess content = some code := by decide +kernel
  exact ⟨h, by decide +kernel, analyzeSource_of_preprocess "f.py" h⟩

end

end GrowthScan
