import GrowthScan.Proofs.Growth.Worst
import Mathlib.Data.Prod.Lex
import Mathlib.Order.WithBot

/-!
# The order of the classes by growth

`powers` tells how fast the cost of a class grows, which orders all classes, the
polynomials too (`pairwise_lt`). The rank knows only some of them. It agrees with
the order on the ranked classes, so that a looser ceiling of those is exceeded by
less (`exceeds_of_le`), and puts the polynomials below all others, so that every
ranked class exceeds them (`exceeds_of_not_isRanked`).

Where the ceiling is ranked, the worst of many classes exceeds it if one of them
does (`exceeds_worst_iff`).
-/

namespace GrowthScan.Growth

/-- The cost `n ^ p * (log n) ^ q`. The logarithm counts only between equal powers of `n`. -/
def powerLog (p q : ℕ) : WithTop (ℕ ×ₗ ℕ) := (toLex (p, q) : ℕ ×ₗ ℕ)

/-- How fast the cost grows. An exponential outgrows every power. -/
def powers : Growth → WithTop (ℕ ×ₗ ℕ)
  | constant => powerLog 0 0
  | logarithmic => powerLog 0 1
  | linear => powerLog 1 0
  | linearithmic => powerLog 1 1
  | quadratic => powerLog 2 0
  | cubic => powerLog 3 0
  | polynomial degree => powerLog degree.toNat 0
  | exponential => ⊤

/-- The order by growth. It is not the order of the ranks, in which a polynomial has no place. -/
instance : Preorder Growth := .lift powers

instance : DecidableLE Growth := fun a b => inferInstanceAs (Decidable (a.powers ≤ b.powers))

instance : DecidableLT Growth := fun a b => inferInstanceAs (Decidable (a.powers < b.powers))

theorem lt_iff {a b : Growth} : a < b ↔ a.powers < b.powers := Iff.rfl

theorem powerLog_lt_powerLog {p q p' q' : ℕ} :
    powerLog p q < powerLog p' q' ↔ p < p' ∨ p = p' ∧ q < q' := by
  rw [powerLog, powerLog, WithTop.coe_lt_coe, Prod.Lex.toLex_lt_toLex]

theorem polynomial_lt_polynomial {d e : UInt32} (h : d < e) : polynomial d < polynomial e := by
  rw [lt_iff, powers, powers, powerLog_lt_powerLog]
  exact .inl (UInt32.lt_iff_toNat_lt.mp h)

theorem cubic_lt_polynomial {d : UInt32} (h : 3 < d) : cubic < polynomial d := by
  rw [lt_iff, powers, powers, powerLog_lt_powerLog]
  exact .inl (UInt32.lt_iff_toNat_lt.mp h)

theorem polynomial_lt_exponential (d : UInt32) : polynomial d < exponential :=
  WithTop.coe_lt_top (toLex (d.toNat, 0))

/-- All classes in the order of growth: the ranked ones up to the cubic, the polynomials above the
third by their degrees, and the exponential one. -/
theorem pairwise_lt {degrees : List UInt32} (hlow : ∀ d ∈ degrees, 3 < d)
    (hdegrees : degrees.Pairwise (· < ·)) :
    ([constant, logarithmic, linear, linearithmic, quadratic, cubic] ++ degrees.map polynomial ++
      [exponential]).Pairwise (· < ·) := by
  have hcubic : ∀ a ∈ [constant, logarithmic, linear, linearithmic, quadratic, cubic],
      a ≤ cubic := by decide
  have hexponential : cubic < exponential := by decide
  rw [List.pairwise_append, List.pairwise_append]
  refine ⟨⟨by decide, ?_, ?_⟩, List.pairwise_singleton _ _, ?_⟩
  · exact hdegrees.map polynomial fun _ _ => polynomial_lt_polynomial
  · intro a ha b hb
    obtain ⟨d, hd, rfl⟩ := List.mem_map.mp hb
    exact (hcubic a ha).trans_lt (cubic_lt_polynomial (hlow d hd))
  · intro a ha b hb
    rw [List.mem_singleton.mp hb]
    rcases List.mem_append.mp ha with ha | ha
    · exact (hcubic a ha).trans_lt hexponential
    · obtain ⟨d, -, rfl⟩ := List.mem_map.mp ha
      exact polynomial_lt_exponential d

/-! ## Ceilings -/

theorem height_le_height_of_le {a b : Growth} (h : a ≤ b) (hb : b.isRanked = true) :
    a.height ≤ b.height := by
  have hranked : ∀ a ∈ ranked, ∀ b ∈ ranked, a ≤ b → a.height ≤ b.height := by decide
  rcases mem_ranked_or a with ha | ⟨d, rfl⟩
  · exact hranked a ha b (mem_ranked_iff.mpr hb) h
  · exact Nat.zero_le _

/-- What exceeds a ranked ceiling exceeds every tighter one. -/
theorem exceeds_of_le {g tight loose : Growth} (h : tight ≤ loose) (hr : loose.isRanked = true)
    (hg : g.exceeds loose = true) : g.exceeds tight = true := by
  rw [exceeds_iff] at hg ⊢
  exact (height_le_height_of_le h hr).trans_lt hg

/-- Every ranked class exceeds a polynomial, however fast that grows. -/
theorem exceeds_of_not_isRanked {g ceiling : Growth} (hg : g.isRanked = true)
    (hc : ceiling.isRanked = false) : g.exceeds ceiling = true := by
  have hheight : ceiling.height = 0 := by
    rw [← Nat.le_zero, ← Nat.not_lt, ← isRanked_iff, hc]
    decide
  rw [exceeds_iff, hheight]
  exact isRanked_iff.mp hg

/-- The polynomials among the classes neither raise the worst one nor exceed a ranked ceiling. -/
theorem exceeds_worst_iff {gs : List Growth} {ceiling : Growth} (hc : ceiling.isRanked = true) :
    (worst gs).exceeds ceiling = true ↔ ∃ g ∈ gs, g.exceeds ceiling = true := by
  simp only [exceeds_iff]
  constructor
  · intro h
    rcases worst_mem gs with hconstant | hmem
    · rw [hconstant] at h
      exact absurd (isRanked_iff.mp hc) (Nat.not_lt.mpr (Nat.le_of_lt_succ h))
    · exact ⟨_, hmem, h⟩
  · rintro ⟨g, hg, h⟩
    exact h.trans_le (height_le_height_worst hg)

end GrowthScan.Growth
