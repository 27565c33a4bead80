import GrowthScan.Proofs.Analysis.Detectors
import GrowthScan.Proofs.Growth.Label
import Mathlib.Algebra.Ring.Nat

/-!
# The degree of a deep nest

Above the third level the class of a nest is a power, and the texts of its finding tell the depth
(`finding_of_deep`). The degree of the power is a 32-bit number, which keeps the low bits of the depth
and no more. So the label tells the depth just if the depth is below 2^32
(`label_eq_iff`), and the class is read back from its label just if what is left of the
depth is above the third level (`ofLabel_label_iff`).
-/

namespace GrowthScan.LoopNest

section

variable {n : LoopNest} (h : 3 < n.depth)

include h

theorem growth_of_deep : n.growth = .polynomial (UInt32.ofNat n.depth) := by
  obtain ⟨depth, halving⟩ := n
  match depth, h with
  | depth + 4, _ => rfl

theorem finding_of_deep :
    n.finding = ⟨"Nested Loops (" ++ n.depth.repr ++ " levels)",
      .polynomial (UInt32.ofNat n.depth), n.depth.repr ++ " levels of loop nesting detected"⟩ := by
  have hzero : n.depth ≠ 0 := by omega
  have hone : ¬(n.depth = 1 && n.halving) = true := by
    simp only [Bool.and_eq_true, decide_eq_true_eq]
    omega
  have hlevels : n.levels = n.depth.repr ++ " levels" := by
    rw [levels, if_pos (by omega)]
  rw [finding, if_neg hzero, if_neg hone, hlevels, growth_of_deep h]
  simp [String.append_assoc]

theorem label_of_deep :
    n.finding.growth.label = "O(n^" ++ (n.depth % 2 ^ 32).repr ++ ")" := by
  rw [finding_of_deep h, Growth.label, UInt32.toNat_ofNat']

theorem label_eq_iff :
    n.finding.growth.label = "O(n^" ++ n.depth.repr ++ ")" ↔ n.depth < 2 ^ 32 := by
  rw [label_of_deep h, String.append_left_inj, String.append_right_inj, ← String.toList_inj,
    Nat.toList_repr, Nat.toList_repr, Growth.toDigits_injective.eq_iff]
  omega

theorem ofLabel_label_iff :
    Growth.ofLabel n.finding.growth.label = .ok n.finding.growth ↔ 3 < n.depth % 2 ^ 32 := by
  rw [Growth.ofLabel_eq_ok_iff, Growth.ofLabel?_label_iff, finding_of_deep h]
  constructor
  · rintro (hranked | ⟨d, hd, hgrowth⟩)
    · cases hranked
    · rw [← Growth.polynomial.inj hgrowth, UInt32.lt_iff_toNat_lt, UInt32.toNat_ofNat'] at hd
      exact hd
  · intro hlow
    refine .inr ⟨_, ?_, rfl⟩
    rw [UInt32.lt_iff_toNat_lt, UInt32.toNat_ofNat']
    exact hlow

/-- The finding of a deep nest tells its depth. The label of its class tells the low 32 bits of the
depth, so that it tells the depth just if that has no more bits; and it is the label of a class that
can be read just if they are a number above three. -/
theorem finding_degree :
    n.finding.operation = "Nested Loops (" ++ n.depth.repr ++ " levels)" ∧
    (∃ d, n.finding.growth = .polynomial d ∧ d.toNat = n.depth % 2 ^ 32) ∧
    n.finding.growth.label = "O(n^" ++ (n.depth % 2 ^ 32).repr ++ ")" ∧
    (n.finding.growth.label = "O(n^" ++ n.depth.repr ++ ")" ↔ n.depth < 2 ^ 32) ∧
    (Growth.ofLabel n.finding.growth.label = .ok n.finding.growth ↔ 3 < n.depth % 2 ^ 32) := by
  refine ⟨?_, ⟨UInt32.ofNat n.depth, ?_, UInt32.toNat_ofNat'⟩, label_of_deep h, label_eq_iff h,
    ofLabel_label_iff h⟩
  · rw [finding_of_deep h]
  · rw [finding_of_deep h]

end

/-- A nest of which the label of its class tells too little, though it can be read. -/
theorem finding_degree_low_bits :
    let n : LoopNest := ⟨2 ^ 32 + 5, true⟩
    3 < n.depth ∧ n.finding.operation = "Nested Loops (4294967301 levels)" ∧
      (∃ d, n.finding.growth = .polynomial d ∧ d.toNat = 5) ∧
      n.finding.growth.label = "O(n^5)" ∧
      n.finding.growth.label ≠ "O(n^" ++ n.depth.repr ++ ")" ∧
      Growth.ofLabel n.finding.growth.label = .ok n.finding.growth := by
  intro n
  have hdeep : 3 < n.depth := by decide
  obtain ⟨hoperation, hdegree, hlabel, htells, hread⟩ := finding_degree hdeep
  have hlow : n.depth % 2 ^ 32 = 5 := by decide
  rw [hlow] at hdegree hlabel
  exact ⟨hdeep, hoperation.trans (by decide +kernel), hdegree, hlabel.trans (by decide),
    mt htells.mp (by decide), hread.mpr (by decide)⟩

/-- The class of a nest of 2^32 loops is the power of degree zero, whose label no longer tells
the depth and is not read. -/
theorem not_forall_degree_eq_depth :
    ¬∀ n : LoopNest, 3 < n.depth → n.depth < 2 ^ 64 →
      n.finding.operation = "Nested Loops (" ++ n.depth.repr ++ " levels)" ∧
      (∃ d, n.finding.growth = .polynomial d ∧ d.toNat = n.depth) ∧
      n.finding.growth.label = "O(n^" ++ n.depth.repr ++ ")" ∧
      Growth.ofLabel n.finding.growth.label = .ok n.finding.growth := by
  intro hall
  obtain ⟨-, -, -, hread⟩ := hall ⟨2 ^ 32, false⟩ (by decide) (by decide)
  have hlow := (ofLabel_label_iff (by decide)).mp hread
  exact absurd hlow (by decide)

end GrowthScan.LoopNest
