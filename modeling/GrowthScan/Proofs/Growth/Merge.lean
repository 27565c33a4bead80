import GrowthScan.Proofs.Growth.Worst
import Mathlib.Data.List.Basic

/-!
# Merging classes

`worse` takes the greater of two ranks, where no rank at all is the least
(`rank_worse`). It is associative and idempotent on all classes. It neither commutes nor
has the constant class as an identity once polynomials take part, since all of them
tie. The merge of many classes is immune to that: only the ranked classes among them
matter, in whatever order and however often they occur (`worst_congr`), and parts may be
merged before the whole (`worst_append`).
-/

namespace GrowthScan.Growth

/-! ## Two classes -/

theorem rank_le_rank_iff {a b : Growth} : a.rank ≤ b.rank ↔ a.height ≤ b.height := by
  rw [height, height]
  cases a.rank <;> cases b.rank <;> simp

/-- The worse of two classes has the greater rank. -/
theorem rank_worse (a b : Growth) : (worse a b).rank = max a.rank b.rank := by
  rw [worse]
  split
  · rename_i h
    have hle : a.rank ≤ b.rank := rank_le_rank_iff.mpr (Nat.le_of_lt (exceeds_iff.mp h))
    exact (Option.max_eq_left (fun _ _ => Nat.max_eq_right) hle).symm
  · rename_i h
    have hle : b.rank ≤ a.rank := rank_le_rank_iff.mpr (Nat.le_of_not_lt (mt exceeds_iff.mpr h))
    exact (Option.max_eq_right (fun _ _ => Nat.max_eq_left) hle).symm

theorem worse_self (a : Growth) : worse a a = a := ite_self a

/-- Of three classes, the first one among those of the greatest rank is kept. -/
theorem worse_assoc (a b c : Growth) : worse (worse a b) c = worse a (worse b c) := by
  simp only [worse, exceeds, decide_eq_true_eq]
  split_ifs <;> first | rfl | omega

/-! ## Many classes -/

/-- The worst class depends only on which ranked classes there are. -/
theorem worst_congr {gs hs : List Growth}
    (h : ∀ g, g.isRanked = true → (g ∈ hs ↔ g ∈ gs)) : worst hs = worst gs := by
  refine worst_eq_of_forall_le (isRanked_worst gs) ?_ fun g hg => ?_
  · exact (worst_mem gs).imp id (h _ (isRanked_worst gs)).mpr
  · by_cases hr : g.isRanked = true
    · exact height_le_height_worst ((h g hr).mp hg)
    · rw [isRanked_iff] at hr
      omega

/-- Parts may be merged before the whole. -/
theorem worst_append (gs hs : List Growth) : worst (gs ++ hs) = worse (worst gs) (worst hs) := by
  have hheight := height_worse (worst gs) (worst hs)
  have hgs := isRanked_iff.mp (isRanked_worst gs)
  refine worst_eq_of_forall_le (isRanked_iff.mpr (by omega)) ?_ fun g hg => ?_
  · rw [List.mem_append]
    rcases worse_eq_or (worst gs) (worst hs) with h | h <;> rw [h]
    · exact (worst_mem gs).imp id .inl
    · exact (worst_mem hs).imp id .inr
  · rcases List.mem_append.mp hg with hg | hg
    · have := height_le_height_worst hg
      omega
    · have := height_le_height_worst hg
      omega

/-- The merge of two classes is a maximum by rank. The merge of many is ranked, the constant class
or one of them, and of the greatest rank. It sees neither order nor repetition nor polynomials, and
merges parts as the whole. -/
theorem worst_isMaximum :
    (∀ a b c, worse (worse a b) c = worse a (worse b c)) ∧
    (∀ a, worse a a = a) ∧
    (∀ a b, (worse a b).rank = max a.rank b.rank) ∧
    ∀ gs,
      (worst gs).isRanked = true ∧
      (worst gs = constant ∨ worst gs ∈ gs) ∧
      (∀ g ∈ gs, g.rank ≤ (worst gs).rank) ∧
      (∀ hs, hs.Perm gs → worst hs = worst gs) ∧
      (∀ hs, (∀ g, g ∈ hs ↔ g ∈ gs) → worst hs = worst gs) ∧
      (∀ hs, hs.filter (·.isRanked) = gs.filter (·.isRanked) → worst hs = worst gs) ∧
      ∀ hs, worst (gs ++ hs) = worse (worst gs) (worst hs) := by
  refine ⟨worse_assoc, worse_self, rank_worse, fun gs => ⟨isRanked_worst gs, worst_mem gs,
    fun g hg => rank_le_rank_iff.mpr (height_le_height_worst hg), ?_, ?_, ?_, worst_append gs⟩⟩
  · intro hs hperm
    exact worst_congr fun g _ => hperm.mem_iff
  · intro hs hmem
    exact worst_congr fun g _ => hmem g
  · intro hs hfilter
    refine worst_congr fun g hr => ?_
    -- a ranked class is a member just if the filter keeps it
    have hmem : g ∈ hs.filter (·.isRanked) ↔ g ∈ gs.filter (·.isRanked) := by rw [hfilter]
    simpa only [List.mem_filter, hr, and_true] using hmem

/-- A polynomial in front of the other classes, which loses every tie, changes nothing. -/
theorem worst_isMaximum_polynomial :
    let gs := [polynomial 6, linear, cubic, polynomial 4]
    [cubic, polynomial 4, linear, polynomial 6].Perm gs ∧
      worst [cubic, polynomial 4, linear, polynomial 6] = worst gs ∧
      (∀ g, g ∈ [linear, cubic, cubic, polynomial 6, polynomial 4] ↔ g ∈ gs) ∧
      worst [linear, cubic, cubic, polynomial 6, polynomial 4] = worst gs ∧
      [linear, cubic].filter (·.isRanked) = gs.filter (·.isRanked) ∧
      worst [linear, cubic] = worst gs ∧
      cubic ∈ gs ∧ cubic.rank ≤ (worst gs).rank := by
  intro gs
  have hperm : [cubic, polynomial 4, linear, polynomial 6].Perm gs := by decide
  have hmem : ∀ g, g ∈ [linear, cubic, cubic, polynomial 6, polynomial 4] ↔ g ∈ gs := by
    intro g
    simp only [gs, List.mem_cons, List.not_mem_nil, or_false]
    tauto
  have hfilter : [linear, cubic].filter (·.isRanked) = gs.filter (·.isRanked) := by decide
  have hcubic : cubic ∈ gs := by decide
  obtain ⟨-, -, hrank, hpermute, hrepeat, hpolynomial, -⟩ := worst_isMaximum.2.2.2 gs
  exact ⟨hperm, hpermute _ hperm, hmem, hrepeat _ hmem, hfilter, hpolynomial _ hfilter, hcubic,
    hrank _ hcubic⟩

end GrowthScan.Growth
