import GrowthScan.Proofs.Growth.Merge
import GrowthScan.Space
import Mathlib.Data.List.Infix

/-!
# The memory estimate as a merge

A table in two dimensions decides the estimate alone. It need not: neither allocations
nor the stack take more than linear memory (`height_worse_le`), so that the estimate is
the merge of all that takes memory (`estimate_eq_worst`). What occurs in a text occurs in every
text around it, and recursion of a higher class takes no less of the stack, so that the
estimate only grows (`height_estimate_mono`).
-/

namespace GrowthScan

namespace Growth

theorem worse_constant {g : Growth} (h : g.isRanked = true) : worse g constant = g := by
  have hexceeds : ¬constant.exceeds g = true := by
    rw [exceeds_iff, Nat.not_lt]
    exact isRanked_iff.mp h
  rw [worse, if_neg hexceeds]

/-- A merge is no worse than another one if each of its classes is no worse than that. -/
theorem height_worst_le {gs hs : List Growth} (h : ∀ g ∈ gs, g.height ≤ (worst hs).height) :
    (worst gs).height ≤ (worst hs).height := by
  rcases worst_mem gs with hconstant | hmem
  · rw [hconstant]
    exact isRanked_iff.mp (isRanked_worst hs)
  · exact h _ hmem

end Growth

namespace Space

/-! ## What takes memory -/

/-- Whether a word that allocates memory occurs in the code. -/
def HasAllocation (code : List Char) : Prop := ∃ cue ∈ allocationCues, cue.toList <:+: code

/-- Whether a table in two dimensions occurs in the code: two empty pairs of brackets, or `new` and
brackets that open, close and open again. -/
def HasTable (code : List Char) : Prop :=
  "[][]".toList <:+: code ∨ "new ".toList <:+: code ∧ '[' ∈ code ∧ "][".toList <:+: code

instance : DecidablePred HasAllocation := fun code =>
  inferInstanceAs (Decidable (∃ cue ∈ allocationCues, cue.toList <:+: code))

instance : DecidablePred HasTable := fun code =>
  inferInstanceAs (Decidable
    ("[][]".toList <:+: code ∨ "new ".toList <:+: code ∧ '[' ∈ code ∧ "][".toList <:+: code))

/-- The class of the stack, if recursion makes use of it. -/
def stackParts : Growth → List Growth
  | .constant => []
  | .logarithmic => [.logarithmic]
  | _ => [.linear]

/-- The classes of all that takes memory. -/
def parts (code : List Char) (recursion : Growth) : List Growth :=
  (if HasAllocation code then [.linear] else []) ++ stackParts recursion ++
    if HasTable code then [.quadratic] else []

theorem allocates_iff {code : List Char} : allocates code = true ↔ HasAllocation code := by
  simp [allocates, Text.occursAny, Text.occurs_iff, HasAllocation]

theorem buildsTable_iff {code : List Char} : buildsTable code = true ↔ HasTable code := by
  simp only [buildsTable, Bool.or_eq_true, Bool.and_eq_true, Text.occurs_iff, HasTable, and_assoc]
  exact Iff.or .rfl (and_congr_right' (and_congr_left' (List.singleton_infix_iff _ _)))

theorem HasAllocation.mono {a b : List Char} (h : a <:+: b) : HasAllocation a → HasAllocation b := by
  rintro ⟨cue, hcue, hinfix⟩
  exact ⟨cue, hcue, hinfix.trans h⟩

theorem HasTable.mono {a b : List Char} (h : a <:+: b) : HasTable a → HasTable b := by
  rintro (hpairs | ⟨hnew, hopen, hinner⟩)
  · exact .inl (hpairs.trans h)
  · exact .inr ⟨hnew.trans h, h.subset hopen, hinner.trans h⟩

theorem mem_parts_iff {code : List Char} {recursion g : Growth} :
    g ∈ parts code recursion ↔
      HasAllocation code ∧ g = .linear ∨ g ∈ stackParts recursion ∨
        HasTable code ∧ g = .quadratic := by
  simp only [parts, List.mem_append, or_assoc]
  refine or_congr ?_ (or_congr_right ?_) <;> split <;> simp [*]

/-! ## The merge -/

/-- Without a table, memory grows at most linearly, and its class is ranked. -/
theorem height_worse_le (code : List Char) (recursion : Growth) :
    let g := Growth.worse (ofAllocation code) (ofRecursion recursion)
    0 < g.height ∧ g.height ≤ Growth.linear.height := by
  have hallocation :
      0 < (ofAllocation code).height ∧ (ofAllocation code).height ≤ Growth.linear.height := by
    unfold ofAllocation
    split <;> decide
  have hrecursion : (ofRecursion recursion).height ≤ Growth.linear.height := by
    cases recursion <;> simp [ofRecursion, Growth.height, Growth.rank]
  have hworse := Growth.height_worse (ofAllocation code) (ofRecursion recursion)
  constructor <;> omega

theorem worst_stackParts (recursion : Growth) :
    Growth.worst (stackParts recursion) = ofRecursion recursion := by
  cases recursion <;> rfl

/-- The class of a table outranks all others, so that deciding alone is no different from being
merged. -/
theorem estimate_eq_worst (code : List Char) (recursion : Growth) :
    estimate code recursion = Growth.worst (parts code recursion) := by
  have hallocation :
      Growth.worst (if HasAllocation code then [.linear] else []) = ofAllocation code := by
    simp only [ofAllocation, allocates_iff]
    split <;> rfl
  obtain ⟨hranked, hle⟩ := height_worse_le code recursion
  rw [parts, Growth.worst_append, Growth.worst_append, hallocation, worst_stackParts]
  simp only [estimate, buildsTable_iff]
  split
  · have hexceeds : Growth.quadratic.exceeds
        (Growth.worse (ofAllocation code) (ofRecursion recursion)) = true := by
      rw [Growth.exceeds_iff]
      exact hle.trans_lt (by decide)
    exact (if_pos hexceeds).symm
  · exact (Growth.worse_constant (Growth.isRanked_iff.mpr hranked)).symm

/-! ## More code and more recursion -/

theorem exists_stackPart_of_height_le {r r' : Growth} (hr : r.isRanked = true)
    (h : r.height ≤ r'.height) :
    ∀ g ∈ stackParts r, ∃ g' ∈ stackParts r', g.height ≤ g'.height := by
  cases r <;> cases r' <;> simp_all [stackParts, Growth.height, Growth.rank, Growth.isRanked]

/-- What takes memory takes it in every text around the code as well. -/
theorem exists_part_of_infix {a b : List Char} (hab : a <:+: b) {r r' : Growth}
    (hr : r.isRanked = true) (h : r.height ≤ r'.height) :
    ∀ g ∈ parts a r, ∃ g' ∈ parts b r', g.height ≤ g'.height := by
  intro g hg
  simp only [mem_parts_iff] at hg ⊢
  rcases hg with ⟨hallocation, rfl⟩ | hstack | ⟨htable, rfl⟩
  · exact ⟨_, .inl ⟨hallocation.mono hab, rfl⟩, Nat.le_refl _⟩
  · obtain ⟨g', hg', hle⟩ := exists_stackPart_of_height_le hr h g hstack
    exact ⟨g', .inr (.inl hg'), hle⟩
  · exact ⟨_, .inr (.inr ⟨htable.mono hab, rfl⟩), Nat.le_refl _⟩

theorem height_estimate_mono {a b : List Char} (hab : a <:+: b) {r r' : Growth}
    (hr : r.isRanked = true) (h : r.height ≤ r'.height) :
    (estimate a r).height ≤ (estimate b r').height := by
  rw [estimate_eq_worst, estimate_eq_worst]
  refine Growth.height_worst_le fun g hg => ?_
  obtain ⟨g', hg', hle⟩ := exists_part_of_infix hab hr h g hg
  exact hle.trans (Growth.height_le_height_worst hg')

/-- The estimate is the merge of the classes of what takes memory, so that it is no lower than any
of them. It is no lower for more code and recursion of a higher class. -/
theorem estimate_isMerge :
    (∀ code recursion, estimate code recursion = Growth.worst (parts code recursion)) ∧
    (∀ code recursion, ∀ g ∈ parts code recursion,
      g.exceeds (estimate code recursion) = false) ∧
    ∀ code before behind recursion recursion',
      recursion.isRanked = true → recursion.exceeds recursion' = false →
      (estimate code recursion).exceeds
        (estimate (before ++ code ++ behind) recursion') = false := by
  have hexceeds {g c : Growth} : g.exceeds c = false ↔ g.height ≤ c.height := by
    rw [← Bool.not_eq_true, Growth.exceeds_iff, Nat.not_lt]
  simp only [hexceeds]
  refine ⟨estimate_eq_worst, fun code recursion g hg => ?_, ?_⟩
  · rw [estimate_eq_worst]
    exact Growth.height_le_height_worst hg
  · intro code before behind recursion recursion' hranked hle
    exact height_estimate_mono (List.infix_append before code behind) hranked hle

/-- The brackets of a table, half of them in the code and half behind it. -/
theorem estimate_isMerge_seam :
    let code := "[n]".toList
    Growth.linear ∈ parts "xs = []".toList .logarithmic ∧
      Growth.linear.exceeds (estimate "xs = []".toList .logarithmic) = false ∧
      Growth.logarithmic.isRanked = true ∧ Growth.logarithmic.exceeds .exponential = false ∧
      (estimate code .logarithmic).exceeds
        (estimate ("new int".toList ++ code ++ "[m]".toList) .exponential) = false ∧
      estimate code .logarithmic = .logarithmic ∧
      estimate ("new int".toList ++ code ++ "[m]".toList) .exponential = .quadratic := by
  intro code
  have hpart : Growth.linear ∈ parts "xs = []".toList .logarithmic := by decide
  have hranked : Growth.logarithmic.isRanked = true := by decide
  have hle : Growth.logarithmic.exceeds .exponential = false := by decide
  exact ⟨hpart, estimate_isMerge.2.1 _ _ _ hpart, hranked, hle,
    estimate_isMerge.2.2 code _ _ _ _ hranked hle, by decide, by decide⟩

end Space

end GrowthScan
