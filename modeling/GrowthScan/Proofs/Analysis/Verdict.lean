import GrowthScan.Proofs.Analysis.Findings
import Mathlib.Data.List.Infix

/-!
# The time verdict in closed form

For each class, the detectors that find it in a snippet (`exponential_mem_iff` to
`logarithmic_mem_iff`). The verdict is the costliest class that is found, so
`Analysis.time_ofCode` decides it by the first of six rules that applies, and a
snippet to which none applies is constant.
-/

namespace GrowthScan

namespace Snippet

variable {s : Snippet}

/-- The detectors that report a class: algorithms of that class, loops of a depth that makes it
where there is no algorithm, recursion and library calls. -/
theorem mem_growths_iff_cases {g : Growth} (hr : g.isRanked = true) (hc : g ≠ .constant) :
    g ∈ s.findings.map (·.growth) ↔
      (∃ a : Algorithm, a.finding.growth = g ∧ s.algorithm = a.finding) ∨
      (s.algorithm.growth = .constant ∧
        ((LoopNest.ofLines s.lines).depth = 1 ∧
          (if (LoopNest.ofLines s.lines).halving then .logarithmic else .linear) = g ∨
        (LoopNest.ofLines s.lines).depth = 2 ∧ .quadratic = g ∨
        (LoopNest.ofLines s.lines).depth = 3 ∧ .cubic = g)) ∨
      s.recursion.growth = g ∨
      ∃ l ∈ LibraryCall.catalog, l.name.toList <:+: s.code ∧ l.growth = g := by
  have ha : s.algorithm.growth = g ↔
      ∃ a : Algorithm, a.finding.growth = g ∧ s.algorithm = a.finding :=
    Algorithm.growth_detect_eq_iff hc
  have hz : ¬((LoopNest.ofLines s.lines).depth = 0 ∧ .constant = g) := fun h => hc h.2.symm
  rw [mem_growths_iff hc, ha, loops, LoopNest.growth_finding_eq_iff hr, or_iff_right hz]

theorem exponential_mem_iff :
    .exponential ∈ s.findings.map (·.growth) ↔
      "fibonacci".toList <:+: s.lowered ∧ s.selfCalls.several = true := by
  have hr : s.recursion.growth = .exponential ↔
      "fibonacci".toList <:+: s.lowered ∧ s.selfCalls.several = true :=
    SelfCalls.growth_finding_eq_exponential_iff.trans
      (and_iff_right_of_imp fun h => SelfCalls.isRecursive_of_several h.2)
  rw [mem_growths_iff_cases rfl (by decide), Algorithm.exists_iff, hr]
  cases (LoopNest.ofLines s.lines).halving <;> simp [Algorithm.finding, LibraryCall.catalog]

theorem cubic_mem_iff :
    .cubic ∈ s.findings.map (·.growth) ↔
      s.algorithm.growth = .constant ∧ (LoopNest.ofLines s.lines).depth = 3 := by
  have hr : s.recursion.growth ≠ .cubic := SelfCalls.growth_finding_ne (by decide)
  rw [mem_growths_iff_cases rfl (by decide), Algorithm.exists_iff]
  cases (LoopNest.ofLines s.lines).halving <;> simp [Algorithm.finding, LibraryCall.catalog, hr]

theorem quadratic_mem_iff :
    .quadratic ∈ s.findings.map (·.growth) ↔
      s.algorithm.growth = .constant ∧ (LoopNest.ofLines s.lines).depth = 2 := by
  have hr : s.recursion.growth ≠ .quadratic := SelfCalls.growth_finding_ne (by decide)
  rw [mem_growths_iff_cases rfl (by decide), Algorithm.exists_iff]
  cases (LoopNest.ofLines s.lines).halving <;> simp [Algorithm.finding, LibraryCall.catalog, hr]

theorem linearithmic_mem_iff :
    .linearithmic ∈ s.findings.map (·.growth) ↔
      s.algorithm = Algorithm.quickSort.finding ∨ s.algorithm = Algorithm.mergeSort.finding ∨
        "sort".toList <:+: s.code := by
  have hr : s.recursion.growth ≠ .linearithmic := SelfCalls.growth_finding_ne (by decide)
  rw [mem_growths_iff_cases rfl (by decide), Algorithm.exists_iff,
    LibraryCall.exists_linearithmic_iff]
  cases (LoopNest.ofLines s.lines).halving <;> simp [Algorithm.finding, hr, or_assoc]

theorem linear_mem_iff :
    .linear ∈ s.findings.map (·.growth) ↔
      s.algorithm = Algorithm.memoizedFibonacci.finding ∨
        (s.algorithm.growth = .constant ∧ (LoopNest.ofLines s.lines).depth = 1 ∧
          (LoopNest.ofLines s.lines).halving = false) ∨
        s.recursion = SelfCalls.linearFinding ∨
        ∃ w ∈ ["find", "indexOf", "reverse", "max", "min"], w.toList <:+: s.code := by
  have hr : s.recursion.growth = .linear ↔ s.recursion = SelfCalls.linearFinding :=
    SelfCalls.growth_finding_eq_linear_iff
  rw [mem_growths_iff_cases rfl (by decide), Algorithm.exists_iff, hr, LibraryCall.exists_linear_iff]
  cases (LoopNest.ofLines s.lines).halving <;> simp [Algorithm.finding]

theorem logarithmic_mem_iff :
    .logarithmic ∈ s.findings.map (·.growth) ↔
      s.algorithm = Algorithm.binarySearch.finding ∨
        (s.algorithm.growth = .constant ∧ (LoopNest.ofLines s.lines).depth = 1 ∧
          (LoopNest.ofLines s.lines).halving = true) ∨
        s.recursion = SelfCalls.halvingFinding := by
  have hr : s.recursion.growth = .logarithmic ↔ s.recursion = SelfCalls.halvingFinding :=
    SelfCalls.growth_finding_eq_logarithmic_iff
  rw [mem_growths_iff_cases rfl (by decide), Algorithm.exists_iff, hr]
  cases (LoopNest.ofLines s.lines).halving <;> simp [Algorithm.finding, LibraryCall.catalog]

end Snippet

/-- The time class of a text is that of the first rule that applies. A nest deeper than three
levels is under no rule. -/
theorem Analysis.time_ofCode (text : List Char) :
    let code := Text.trim text
    let lines := (Text.lines code).map Text.trim
    let algorithm := Algorithm.detect (normalize code)
    let nest := LoopNest.ofLines lines
    let selfCalls := SelfCalls.scan code lines
    let recursion := selfCalls.finding (Text.lower code)
    (ofCode text).time =
      if "fibonacci".toList <:+: Text.lower code ∧ selfCalls.several = true then .exponential
      else if algorithm.growth = .constant ∧ nest.depth = 3 then .cubic
      else if algorithm.growth = .constant ∧ nest.depth = 2 then .quadratic
      else if algorithm = Algorithm.quickSort.finding ∨ algorithm = Algorithm.mergeSort.finding ∨
          "sort".toList <:+: code then .linearithmic
      else if algorithm = Algorithm.memoizedFibonacci.finding ∨
          (algorithm.growth = .constant ∧ nest.depth = 1 ∧ nest.halving = false) ∨
          recursion = SelfCalls.linearFinding ∨
          ∃ w ∈ ["find", "indexOf", "reverse", "max", "min"], w.toList <:+: code then .linear
      else if algorithm = Algorithm.binarySearch.finding ∨
          (algorithm.growth = .constant ∧ nest.depth = 1 ∧ nest.halving = true) ∨
          recursion = SelfCalls.halvingFinding then .logarithmic
      else .constant := by
  intro code lines algorithm nest selfCalls recursion
  have hg : (ofCode text).findings = (Snippet.ofText text).findings := by
    rw [ofCode, Snippet.analysis]
  rw [time_eq, hg, Growth.worst_eq_ite]
  simp only [Snippet.exponential_mem_iff, Snippet.cubic_mem_iff, Snippet.quadratic_mem_iff,
    Snippet.linearithmic_mem_iff, Snippet.linear_mem_iff, Snippet.logarithmic_mem_iff]
  rfl

end GrowthScan
