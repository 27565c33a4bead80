import GrowthScan.Growth
import Mathlib.Tactic.SplitIfs

/-!
# The worst of many classes

`worst` merges classes one by one. What it computes does not depend on how: the
worst class bounds the classes (`height_le_height_worst`), is constant or one
of them (`worst_mem`) and is ranked (`isRanked_worst`), and these three facts
determine it (`worst_eq_of_forall_le`). So it is the first class, costliest
first, that is among them (`worst_eq_ite`).
-/

namespace GrowthScan.Growth

/-! ## Heights -/

theorem isRanked_iff {g : Growth} : g.isRanked = true ↔ 0 < g.height := by
  cases g <;> simp [isRanked, height, rank]

theorem ranked_getElem? {g : Growth} {n : Nat} (h : g.rank = some n) : ranked[n]? = some g := by
  cases g <;> simp only [rank, Option.some.injEq, reduceCtorEq] at h <;> subst h <;> rfl

/-- Ranked classes are told apart by their heights. -/
theorem eq_of_height_eq {a b : Growth} (ha : a.isRanked = true) (h : a.height = b.height) :
    a = b := by
  obtain ⟨n, hn⟩ := Option.isSome_iff_exists.mp ha
  have hb : b.rank = some n := by
    cases hr : b.rank with
    | none => simp [height, hn, hr] at h
    | some m => simp only [height, hn, hr, Option.elim_some] at h; rw [show m = n by omega]
  exact Option.some.inj ((ranked_getElem? hn).symm.trans (ranked_getElem? hb))

/-! ## The fold -/

theorem worse_eq_or (a b : Growth) : worse a b = a ∨ worse a b = b := by
  unfold worse
  split
  · exact .inr rfl
  · exact .inl rfl

theorem height_le_height_foldl (gs : List Growth) (g : Growth) :
    g.height ≤ (gs.foldl worse g).height ∧ ∀ h ∈ gs, h.height ≤ (gs.foldl worse g).height := by
  induction gs generalizing g with
  | nil => exact ⟨Nat.le_refl _, fun _ h => absurd h List.not_mem_nil⟩
  | cons c gs ih =>
    obtain ⟨h₁, h₂⟩ := ih (worse g c)
    rw [height_worse] at h₁
    refine ⟨by rw [List.foldl_cons]; omega, fun h hm => ?_⟩
    rcases List.mem_cons.mp hm with rfl | hm
    · rw [List.foldl_cons]; omega
    · exact h₂ h hm

theorem foldl_worse_mem (gs : List Growth) (g : Growth) :
    gs.foldl worse g = g ∨ gs.foldl worse g ∈ gs := by
  induction gs generalizing g with
  | nil => exact .inl rfl
  | cons c gs ih =>
    rw [List.foldl_cons]
    rcases ih (worse g c) with h | h
    · rw [h]
      rcases worse_eq_or g c with h | h
      · exact .inl h
      · exact .inr (by rw [h]; exact List.mem_cons_self)
    · exact .inr (List.mem_cons_of_mem _ h)

/-! ## The worst class -/

/-- No class is costlier than the worst. -/
theorem height_le_height_worst {gs : List Growth} {g : Growth} (h : g ∈ gs) :
    g.height ≤ (worst gs).height :=
  (height_le_height_foldl gs constant).2 g h

theorem worst_mem (gs : List Growth) : worst gs = constant ∨ worst gs ∈ gs :=
  foldl_worse_mem gs constant

/-- An unranked class is never the worst, even alone. -/
theorem isRanked_worst (gs : List Growth) : (worst gs).isRanked = true :=
  isRanked_iff.mpr (height_le_height_foldl gs constant).1

/-- A ranked class that bounds the classes, and is constant or one of them, is the worst. -/
theorem worst_eq_of_forall_le {gs : List Growth} {g : Growth} (hr : g.isRanked = true)
    (hg : g = constant ∨ g ∈ gs) (hle : ∀ h ∈ gs, h.height ≤ g.height) : worst gs = g := by
  refine eq_of_height_eq (isRanked_worst gs) (Nat.le_antisymm ?_ ?_)
  · rcases worst_mem gs with h | h
    · rw [h]; exact isRanked_iff.mp hr
    · exact hle _ h
  · rcases hg with rfl | hg
    · exact isRanked_iff.mp (isRanked_worst gs)
    · exact height_le_height_worst hg

/-- A bound on the heights, from the classes above it that do not occur. -/
theorem height_le_of_not_mem {gs : List Growth} {n : Nat}
    (h : ∀ g ∈ ranked, n < g.height → g ∉ gs) : ∀ g ∈ gs, g.height ≤ n := by
  intro g hg
  refine Nat.le_of_not_lt fun hn => ?_
  have hr : g.isRanked = true := isRanked_iff.mpr (by omega)
  exact h g (mem_ranked_iff.mpr hr) hn hg

/-- The worst class is the first, costliest first, that is among the classes. -/
theorem worst_eq_ite (gs : List Growth) :
    worst gs =
      if exponential ∈ gs then exponential
      else if cubic ∈ gs then cubic
      else if quadratic ∈ gs then quadratic
      else if linearithmic ∈ gs then linearithmic
      else if linear ∈ gs then linear
      else if logarithmic ∈ gs then logarithmic
      else constant := by
  split_ifs <;> refine worst_eq_of_forall_le rfl (by simp [*]) (height_le_of_not_mem ?_) <;>
    simp [ranked, height, rank, *]

end GrowthScan.Growth
