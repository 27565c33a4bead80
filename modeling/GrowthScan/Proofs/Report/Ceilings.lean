import GrowthScan.Proofs.Analysis.Findings
import GrowthScan.Proofs.Growth.Order
import GrowthScan.Report

/-!
# What exceeds a ceiling

A report tells of time or of space just where that class of the analysis exceeds
its ceiling (`isBreached_time_iff`, `isBreached_space_iff`). For ranked ceilings
time exceeds its ceiling just where one of the findings does, so that every
violation shown has a cause shown (`Report.isViolation_new_iff`).

A looser ceiling is breached by less (`not_isBreached_of_le`), with one exception:
polynomials are no ranked classes, and a ceiling that is one is breached by every
analysis (`isBreached_of_not_isRanked`).
-/

namespace GrowthScan

namespace Growth

variable {g : Growth} {what other v : String} {ceiling? : Option Growth}

theorem violation?_eq_some_iff :
    g.violation? what ceiling? = some v ↔
      ∃ ceiling ∈ ceiling?, g.exceeds ceiling = true ∧
        what ++ " " ++ g.label ++ " exceeds " ++ ceiling.label = v := by
  simp only [violation?, Option.bind_eq_bind, Option.bind_eq_some_iff, Option.mem_def,
    Option.ite_none_right_eq_some, Option.some.injEq]

/-- A violation starts with what it is about. -/
theorem prefix_of_violation? (h : g.violation? what ceiling? = some v) :
    (what ++ " ").toList <+: v.toList := by
  obtain ⟨ceiling, -, -, rfl⟩ := violation?_eq_some_iff.mp h
  refine ⟨(g.label ++ " exceeds " ++ ceiling.label).toList, ?_⟩
  simp only [String.toList_append, List.append_assoc]

/-- There is a violation about it just if the class exceeds the ceiling. -/
theorem exists_prefix_violation?_iff :
    (∃ v, g.violation? what ceiling? = some v ∧ (what ++ " ").toList <+: v.toList) ↔
      ∃ ceiling ∈ ceiling?, g.exceeds ceiling = true := by
  constructor
  · rintro ⟨v, hv, -⟩
    obtain ⟨ceiling, hc, hexceeds, -⟩ := violation?_eq_some_iff.mp hv
    exact ⟨ceiling, hc, hexceeds⟩
  · rintro ⟨ceiling, hc, hexceeds⟩
    have hv : g.violation? what ceiling? = some _ :=
      violation?_eq_some_iff.mpr ⟨ceiling, hc, hexceeds, rfl⟩
    exact ⟨_, hv, prefix_of_violation? hv⟩

/-- No violation is about anything else: of two words that start a text, one starts the other. -/
theorem not_exists_prefix_violation? (h : ¬(what ++ " ").toList <+: (other ++ " ").toList)
    (h' : ¬(other ++ " ").toList <+: (what ++ " ").toList) :
    ¬∃ v, g.violation? what ceiling? = some v ∧ (other ++ " ").toList <+: v.toList := by
  rintro ⟨v, hv, hprefix⟩
  exact (List.prefix_or_prefix_of_prefix (prefix_of_violation? hv) hprefix).elim h h'

end Growth

namespace Ceilings

variable {c : Ceilings} {a : Analysis}

/-- Whether some violation is about it. -/
def IsBreached (c : Ceilings) (what : String) (a : Analysis) : Prop :=
  ∃ v ∈ c.violations a, (what ++ " ").toList <+: v.toList

theorem isBreached_iff {what : String} :
    c.IsBreached what a ↔
      (∃ v, a.time.violation? "time" c.time? = some v ∧ (what ++ " ").toList <+: v.toList) ∨
      ∃ v, a.space.violation? "space" c.space? = some v ∧ (what ++ " ").toList <+: v.toList := by
  simp only [IsBreached, violations, List.mem_append, Option.mem_toList, or_and_right, exists_or]

theorem isBreached_time_iff :
    c.IsBreached "time" a ↔ ∃ ceiling ∈ c.time?, a.time.exceeds ceiling = true := by
  rw [isBreached_iff, Growth.exists_prefix_violation?_iff,
    or_iff_left (Growth.not_exists_prefix_violation? (by decide) (by decide))]

theorem isBreached_space_iff :
    c.IsBreached "space" a ↔ ∃ ceiling ∈ c.space?, a.space.exceeds ceiling = true := by
  rw [isBreached_iff, Growth.exists_prefix_violation?_iff,
    or_iff_right (Growth.not_exists_prefix_violation? (by decide) (by decide))]

/-- Every violation is about time or about space. -/
theorem violations_ne_nil_iff :
    c.violations a ≠ [] ↔ c.IsBreached "time" a ∨ c.IsBreached "space" a := by
  constructor
  · intro h
    obtain ⟨v, hv⟩ := List.exists_mem_of_ne_nil _ h
    rw [violations, List.mem_append, Option.mem_toList, Option.mem_toList] at hv
    rcases hv with h | h
    · exact .inl (isBreached_iff.mpr (.inl ⟨v, h, Growth.prefix_of_violation? h⟩))
    · exact .inr (isBreached_iff.mpr (.inr ⟨v, h, Growth.prefix_of_violation? h⟩))
  · rintro (⟨v, hv, -⟩ | ⟨v, hv, -⟩) <;> exact List.ne_nil_of_mem hv

end Ceilings

/-! ## Violations and findings -/

/-- Time exceeds a ranked ceiling just if one of the findings does. -/
theorem Analysis.exceeds_time_iff (text : List Char) {ceiling : Growth}
    (hc : ceiling.isRanked = true) :
    (ofCode text).time.exceeds ceiling = true ↔
      ∃ f ∈ (ofCode text).findings, f.growth.exceeds ceiling = true := by
  rw [time_eq, Growth.exceeds_worst_iff hc]
  simp only [List.mem_map, exists_exists_and_eq_and]

/-- With a ranked ceiling of time, a report tells of time just if one of the findings it shows
exceeds that ceiling. It is a violation just if that is so or space exceeds its own ceiling. -/
theorem Report.isViolation_new_iff (path : String) (language : Language) (text : List Char)
    (c : Ceilings) (hc : ∀ ceiling ∈ c.time?, ceiling.isRanked = true) :
    let r := Report.new path language (Analysis.ofCode text) c
    let hasCause := ∃ ceiling ∈ c.time?, ∃ f ∈ r.analysis.findings, f.growth.exceeds ceiling = true
    ((∃ v ∈ r.violations, "time ".toList <+: v.toList) ↔ hasCause) ∧
      (r.isViolation = true ↔
        hasCause ∨ ∃ ceiling ∈ c.space?, r.analysis.space.exceeds ceiling = true) := by
  intro r hasCause
  have htime : c.IsBreached "time" (Analysis.ofCode text) ↔ hasCause := by
    rw [Ceilings.isBreached_time_iff]
    exact exists_congr fun ceiling => and_congr_right fun h =>
      Analysis.exceeds_time_iff text (hc ceiling h)
  have hviolation : r.isViolation = true ↔ c.violations (Analysis.ofCode text) ≠ [] := by
    simp only [isViolation, r, new, Bool.not_eq_true', List.isEmpty_eq_false_iff]
  refine ⟨htime, ?_⟩
  rw [hviolation, Ceilings.violations_ne_nil_iff, htime, Ceilings.isBreached_space_iff]
  rfl

/-- Four loops in one another exceed nothing, but the library call inside them does. -/
theorem Report.isViolation_new_deep :
    let text := "while (a)\nwhile (b)\nwhile (c)\nwhile (d)\nmax(e);".toList
    let c : Ceilings := ⟨some .logarithmic, some .constant⟩
    let r := Report.new "deep.c" .c (Analysis.ofCode text) c
    let hasCause := ∃ ceiling ∈ c.time?, ∃ f ∈ r.analysis.findings, f.growth.exceeds ceiling = true
    (∀ ceiling ∈ c.time?, ceiling.isRanked = true) ∧
      r.analysis.findings.map (·.growth) = [.polynomial 4, .linear] ∧
      r.violations = ["time O(n) exceeds O(log n)"] ∧
      ((∃ v ∈ r.violations, "time ".toList <+: v.toList) ↔ hasCause) ∧
      (r.isViolation = true ↔
        hasCause ∨ ∃ ceiling ∈ c.space?, r.analysis.space.exceeds ceiling = true) := by
  intro text c r hasCause
  have hc : ∀ ceiling ∈ c.time?, ceiling.isRanked = true := by
    rintro _ ⟨⟩
    rfl
  have hr : r.analysis.findings.map (·.growth) = [.polynomial 4, .linear] ∧
      r.violations = ["time O(n) exceeds O(log n)"] := by decide +kernel
  exact ⟨hc, hr.1, hr.2, isViolation_new_iff "deep.c" .c text c hc⟩

/-! ## Looser ceilings -/

namespace Ceilings

variable {c : Ceilings} {tight loose : Growth}

/-- A ceiling that is a polynomial is breached by every analysis. -/
theorem isBreached_of_not_isRanked (text : List Char) (h : loose.isRanked = false) :
    { c with time? := some loose }.IsBreached "time" (Analysis.ofCode text) ∧
      { c with space? := some loose }.IsBreached "space" (Analysis.ofCode text) := by
  have htime := Analysis.isRanked_time_ofCode text
  have hspace := (Analysis.isRanked_space_ofCode text).1
  rw [isBreached_time_iff, isBreached_space_iff]
  exact ⟨⟨loose, rfl, Growth.exceeds_of_not_isRanked htime h⟩,
    loose, rfl, Growth.exceeds_of_not_isRanked hspace h⟩

/-- What keeps within a tight ceiling keeps within a loose one, if the loose ceiling is ranked or
the tight one is not ranked either. -/
theorem not_isBreached_of_le (text : List Char) (c : Ceilings) (hle : tight ≤ loose)
    (hr : loose.isRanked = true ∨ tight.isRanked = false) :
    (¬{ c with time? := some tight }.IsBreached "time" (Analysis.ofCode text) →
      ¬{ c with time? := some loose }.IsBreached "time" (Analysis.ofCode text)) ∧
    (¬{ c with space? := some tight }.IsBreached "space" (Analysis.ofCode text) →
      ¬{ c with space? := some loose }.IsBreached "space" (Analysis.ofCode text)) := by
  rcases hr with hr | hr
  · simp only [isBreached_time_iff, isBreached_space_iff, Option.mem_some_iff, exists_eq_left']
    exact ⟨mt (Growth.exceeds_of_le hle hr), mt (Growth.exceeds_of_le hle hr)⟩
  · have htight := isBreached_of_not_isRanked (c := c) text hr
    exact ⟨absurd htight.1, absurd htight.2⟩

theorem not_isBreached_exponential :
    let a := Analysis.ofCode "xs.sort();".toList
    let c : Ceilings := ⟨none, some .logarithmic⟩
    Growth.linearithmic ≤ .exponential ∧
      (Growth.exponential.isRanked = true ∨ Growth.linearithmic.isRanked = false) ∧
      a.time = .linearithmic ∧
      (¬{ c with time? := some .linearithmic }.IsBreached "time" a →
        ¬{ c with time? := some .exponential }.IsBreached "time" a) ∧
      (¬{ c with space? := some .linearithmic }.IsBreached "space" a →
        ¬{ c with space? := some .exponential }.IsBreached "space" a) :=
  ⟨by decide, .inl rfl, by decide +kernel,
    not_isBreached_of_le "xs.sort();".toList ⟨none, some .logarithmic⟩ (by decide) (.inl rfl)⟩

/-- Among all ceilings that can be asked for, a looser one may be breached where a tighter one is
not: constant code keeps within a constant ceiling, but not within the fourth power. -/
theorem not_forall_not_isBreached_of_le :
    ¬∀ (text : List Char) (c : Ceilings) (tight loose : Growth),
      (∃ label, Growth.ofLabel? label = some tight) →
      (∃ label, Growth.ofLabel? label = some loose) → tight ≤ loose →
      ¬{ c with time? := some tight }.IsBreached "time" (Analysis.ofCode text) →
        ¬{ c with time? := some loose }.IsBreached "time" (Analysis.ofCode text) := by
  intro h
  have hconstant : (Analysis.ofCode "x = 1".toList).time = .constant := by decide +kernel
  refine h "x = 1".toList ⟨none, none⟩ .constant (.polynomial 4) ⟨"O(1)", by decide +kernel⟩
    ⟨"O(n^4)", by decide +kernel⟩ (by decide) ?_ (isBreached_of_not_isRanked _ rfl).1
  rw [isBreached_time_iff]
  rintro ⟨ceiling, ⟨⟩, hexceeds⟩
  rw [hconstant] at hexceeds
  cases hexceeds

end Ceilings

end GrowthScan
