import GrowthScan.Proofs.Analysis.Detectors
import GrowthScan.Proofs.Growth.Worst
import Mathlib.Tactic.SplitIfs

/-!
# The findings of an analysis

The list of reasons for a verdict in closed form (`Snippet.findings_eq`): which
detectors contribute, and in which order. `Snippet.mem_growths_iff` reads the
classes off it, and `Analysis.coherent_ofCode` says all that holds of every
analysis.
-/

namespace GrowthScan

theorem Finding.matters_iff {f : Finding} : f.matters = true ↔ f.growth ≠ .constant := by
  simp [Finding.matters, Growth.isConstant]

theorem Finding.filter_matters (f : Finding) :
    [f].filter (·.matters) = if f.growth = .constant then [] else [f] := by
  by_cases h : f.growth = .constant
  · rw [if_pos h, List.filter_cons_of_neg fun hm => Finding.matters_iff.mp hm h, List.filter_nil]
  · rw [if_neg h, List.filter_cons_of_pos (Finding.matters_iff.mpr h), List.filter_nil]

/-- Every library call that is found matters. -/
theorem LibraryCall.filter_matters (code : List Char) :
    (findings code).filter (·.matters) = findings code := by
  rw [List.filter_eq_self]
  intro f hf
  simp only [findings, List.mem_map, List.mem_filter] at hf
  obtain ⟨l, ⟨hl, -⟩, rfl⟩ := hf
  rw [Finding.matters_iff, growth_finding]
  rcases growth_eq_or_of_mem_catalog hl with hg | hg <;> rw [hg] <;> decide

theorem LibraryCall.mem_growths_iff {code : List Char} {g : Growth} :
    g ∈ (findings code).map (·.growth) ↔
      ∃ l ∈ catalog, l.name.toList <:+: code ∧ l.growth = g := by
  simp only [findings, List.map_map, List.mem_map, List.mem_filter, occursIn_iff,
    Function.comp_apply, growth_finding, and_assoc]

namespace Snippet

/-- The findings, part by part: an algorithm, or else the loops; recursion; library calls. -/
theorem findings_eq (s : Snippet) :
    s.findings =
      (if s.algorithm.growth = .constant then [] else [s.algorithm]) ++
      (if s.algorithm.growth = .constant ∧ s.loops.growth ≠ .constant then [s.loops] else []) ++
      (if s.recursion.growth = .constant then [] else [s.recursion]) ++ s.libraryCalls := by
  simp only [findings, Finding.matters_iff, Finding.filter_matters, libraryCalls,
    LibraryCall.filter_matters]
  by_cases ha : s.algorithm.growth = .constant
  · by_cases hl : s.loops.growth = .constant <;> simp [ha, hl]
  · simp [ha]

/-- A class other than the constant one is found by a detector that reports it. -/
theorem mem_growths_iff {s : Snippet} {g : Growth} (hg : g ≠ .constant) :
    g ∈ s.findings.map (·.growth) ↔
      s.algorithm.growth = g ∨ (s.algorithm.growth = .constant ∧ s.loops.growth = g) ∨
      s.recursion.growth = g ∨
      ∃ l ∈ LibraryCall.catalog, l.name.toList <:+: s.code ∧ l.growth = g := by
  have hone (f : Finding) : g ∈ (if f.growth = .constant then [] else [f]).map (·.growth) ↔
      f.growth = g := by
    split_ifs with h
    · rw [h]; simpa using hg.symm
    · simp [eq_comm]
  have hloops : g ∈ (if s.algorithm.growth = .constant ∧ s.loops.growth ≠ .constant then [s.loops]
      else []).map (·.growth) ↔ s.algorithm.growth = .constant ∧ s.loops.growth = g := by
    split_ifs with h
    · simp [h.1, eq_comm]
    · simp only [List.map_nil, List.not_mem_nil, false_iff]
      exact fun ⟨ha, hl⟩ => h ⟨ha, by rw [hl]; exact hg⟩
  rw [findings_eq, List.map_append, List.map_append, List.map_append, List.mem_append,
    List.mem_append, List.mem_append, hone, hone, hloops, libraryCalls,
    LibraryCall.mem_growths_iff, or_assoc, or_assoc]

/-- The same by what the lines hold: loops where a line opens one, recursion where there are
calls. -/
theorem findings_eq_of_lines (s : Snippet) :
    s.findings =
      (if s.algorithm.growth = .constant then [] else [s.algorithm]) ++
      (if s.algorithm.growth = .constant ∧ ∃ line ∈ s.lines, Loop.isOpening line = true then
        [s.loops] else []) ++
      (if 0 < s.selfCalls.calls then [s.recursion] else []) ++
      (LibraryCall.catalog.filter (·.occursIn s.code)).map (·.finding) := by
  have hl : s.loops.growth ≠ .constant ↔ ∃ line ∈ s.lines, Loop.isOpening line = true :=
    LoopNest.growth_finding_ofLines_ne_constant_iff s.lines
  have hr : s.recursion.growth = .constant ↔ ¬0 < s.selfCalls.calls :=
    SelfCalls.growth_finding_eq_constant_iff.trans (by omega)
  simp only [findings_eq, hl, hr, ite_not]
  rfl

theorem growth_ne_constant_of_mem {s : Snippet} {f : Finding} (h : f ∈ s.findings) :
    f.growth ≠ .constant := by
  rw [findings_eq, List.mem_append, List.mem_append, List.mem_append] at h
  rcases h with ((h | h) | h) | h
  · split_ifs at h with ha
    · cases h
    · rw [List.mem_singleton.mp h]; exact ha
  · split_ifs at h with hl
    · rw [List.mem_singleton.mp h]; exact hl.2
    · cases h
  · split_ifs at h with hr
    · cases h
    · rw [List.mem_singleton.mp h]; exact hr
  · rw [libraryCalls, ← LibraryCall.filter_matters, List.mem_filter] at h
    exact Finding.matters_iff.mp h.2

end Snippet

namespace Analysis

/-- What every analysis of the text has in common, whatever the detectors find. -/
structure Coherent (text : List Char) (r : Analysis) : Prop where
  /-- Nothing is reported that does not matter. -/
  growth_ne_constant : ∀ f ∈ r.findings, f.growth ≠ .constant
  /-- At most one finding on an algorithm, else at most one on loops, where a line opens one; one
  on recursion where there are self-calls; then the library calls in the code, each once and in
  the order of the catalog. -/
  findings_eq :
    let code := Text.trim text
    let lines := (Text.lines code).map Text.trim
    let algorithm := Algorithm.detect (normalize code)
    let selfCalls := SelfCalls.scan code lines
    ∃ calls : List LibraryCall, calls.Sublist LibraryCall.catalog ∧
      (calls.map (·.name)).Nodup ∧
      (∀ l ∈ LibraryCall.catalog, l ∈ calls ↔ l.name.toList <:+: code) ∧
      r.findings =
        (if algorithm.growth = .constant then [] else [algorithm]) ++
        (if algorithm.growth = .constant ∧ ∃ line ∈ lines, Loop.isOpening line = true then
          [(LoopNest.ofLines lines).finding] else []) ++
        (if 0 < selfCalls.calls then [selfCalls.finding (Text.lower code)] else []) ++
        calls.map (·.finding)
  time_eq : r.time = Growth.worst (r.findings.map (·.growth))
  explanation_eq : r.explanation = r.time.explanation
  isRanked_time : r.time.isRanked = true
  isRanked_space : r.space.isRanked = true
  /-- Memory never grows faster than a table in two dimensions. -/
  space_le : r.space.height ≤ Growth.quadratic.height

theorem isRanked_time_ofCode (text : List Char) : (ofCode text).time.isRanked = true := by
  rw [time_eq]
  exact Growth.isRanked_worst _

/-- Whatever the class of recursion is, space is ranked, and at most a table in two dimensions. -/
theorem isRanked_space_ofCode (text : List Char) : (ofCode text).space.isRanked = true ∧
    (ofCode text).space.height ≤ Growth.quadratic.height := by
  have hestimate :=
    Space.height_estimate (Text.trim text) (Snippet.ofText text).recursion.growth
  exact ⟨Growth.isRanked_iff.mpr hestimate.1, hestimate.2⟩

theorem coherent_ofCode (text : List Char) : Coherent text (ofCode text) where
  growth_ne_constant _ h := Snippet.growth_ne_constant_of_mem (s := .ofText text) h
  findings_eq := by
    intro code lines algorithm selfCalls
    refine ⟨LibraryCall.catalog.filter (·.occursIn code), List.filter_sublist,
      LibraryCall.nodup_names_catalog.sublist (List.filter_sublist.map _), fun l hl => ?_, ?_⟩
    · rw [List.mem_filter, LibraryCall.occursIn_iff]
      exact and_iff_right hl
    · exact Snippet.findings_eq_of_lines (.ofText text)
  time_eq := time_eq text
  explanation_eq := by rw [ofCode, Snippet.analysis]
  isRanked_time := isRanked_time_ofCode text
  isRanked_space := (isRanked_space_ofCode text).1
  space_le := (isRanked_space_ofCode text).2

end Analysis

end GrowthScan
