import GrowthScan.Proofs.Analysis.Detectors
import Mathlib.Algebra.BigOperators.Intervals
import Mathlib.Order.Bounds.Basic

/-!
# The depth of a loop nest in closed form

The scan of the lines counts open loops and never counts below none. Nothing is lost by that: in
front of each line the count is the greatest surplus of openings over closings that any run of
lines up to there has (`LoopScan.isGreatest_opened`). So the depth is the greatest surplus in
front of an opening, and one more for the opening itself
(`LoopNest.depth_halving_ofLines`). The loops halve just if some opening has a cue for it.
-/

namespace GrowthScan

namespace Loop

/-- How many loops the line at this place opens, which is one at most. -/
def opens (lines : List (List Char)) (k : Nat) : Int := if lines[k]?.any isOpening then 1 else 0

/-- How many loops the line at this place closes, which is one at most. -/
def closes (lines : List (List Char)) (k : Nat) : Int := if lines[k]?.any isClosing then 1 else 0

/-- What the lines from `i` on and in front of `k` open more than they close. -/
def surplus (lines : List (List Char)) (i k : Nat) : Int :=
  ∑ j ∈ Finset.Ico i k, (opens lines j - closes lines j)

/-- The surpluses in front of the openings in the first `n` lines, each opening counted with it. -/
def depths (lines : List (List Char)) (n : Nat) : Set Int :=
  {d | ∃ i k, i ≤ k ∧ k < n ∧ opens lines k = 1 ∧ d = 1 + surplus lines i k}

variable {lines : List (List Char)}

@[simp] theorem surplus_self (lines : List (List Char)) (k : Nat) : surplus lines k k = 0 := by
  simp [surplus]

theorem surplus_succ {i k : Nat} (h : i ≤ k) :
    surplus lines i (k + 1) = surplus lines i k + (opens lines k - closes lines k) :=
  Finset.sum_Ico_succ_top h _

theorem opens_eq_one_iff {k : Nat} :
    opens lines k = 1 ↔ ∃ line, lines[k]? = some line ∧ isOpening line = true := by
  simp [opens, Option.any_eq_true]

theorem exists_opens_iff :
    (∃ k < lines.length, opens lines k = 1) ↔ ∃ line ∈ lines, isOpening line = true := by
  simp only [opens_eq_one_iff]
  constructor
  · rintro ⟨k, -, line, hline, hopening⟩
    exact ⟨line, List.mem_of_getElem? hline, hopening⟩
  · rintro ⟨line, hline, hopening⟩
    obtain ⟨k, hk, rfl⟩ := List.getElem_of_mem hline
    exact ⟨k, hk, lines[k], List.getElem?_eq_getElem hk, hopening⟩

theorem depths_succ_of_opens {n : Nat} (h : opens lines n = 1) :
    depths lines (n + 1) = depths lines n ∪ {d | ∃ i ≤ n, d = 1 + surplus lines i n} := by
  ext d
  simp only [depths, Set.mem_union, Set.mem_ofPred_eq, Nat.lt_succ_iff_lt_or_eq]
  constructor
  · rintro ⟨i, k, hik, hk | rfl, hopens, hd⟩
    · exact .inl ⟨i, k, hik, hk, hopens, hd⟩
    · exact .inr ⟨i, hik, hd⟩
  · rintro (⟨i, k, hik, hk, hopens, hd⟩ | ⟨i, hi, hd⟩)
    · exact ⟨i, k, hik, .inl hk, hopens, hd⟩
    · exact ⟨i, n, hi, .inr rfl, h, hd⟩

theorem depths_succ_of_not_opens {n : Nat} (h : opens lines n ≠ 1) :
    depths lines (n + 1) = depths lines n := by
  ext d
  simp only [depths, Set.mem_ofPred_eq, Nat.lt_succ_iff_lt_or_eq]
  constructor
  · rintro ⟨i, k, hik, hk | rfl, hopens, hd⟩
    · exact ⟨i, k, hik, hk, hopens, hd⟩
    · exact absurd hopens h
  · rintro ⟨i, k, hik, hk, hopens, hd⟩
    exact ⟨i, k, hik, .inl hk, hopens, hd⟩

end Loop

namespace LoopScan

open Loop (depths opens closes surplus)

/-! ## One line -/

/-- The count of open loops as a number that is cut off below zero. -/
theorem opened_step (s : LoopScan) (line : List Char) :
    ((s.step line).opened : Int) = max 0 ((s.opened : Int) +
      ((if Loop.isOpening line then 1 else 0) - (if Loop.isClosing line then 1 else 0))) := by
  simp only [step, openLoop]
  cases Loop.isOpening line <;> cases Loop.isClosing line <;> simp <;> omega

theorem halving_step (s : LoopScan) (line : List Char) :
    (s.step line).nest.halving =
      (s.nest.halving || (Loop.isOpening line && Loop.hasHalvingCue line)) := by
  simp only [step, openLoop]
  cases Loop.isOpening line <;> cases Loop.isClosing line <;> simp

/-! ## All lines -/

theorem halving_foldl (lines : List (List Char)) (s : LoopScan) :
    (lines.foldl step s).nest.halving =
      (s.nest.halving || lines.any fun l => Loop.isOpening l && Loop.hasHalvingCue l) := by
  induction lines generalizing s with
  | nil => simp
  | cons l lines ih => rw [List.foldl_cons, ih, halving_step, List.any_cons, Bool.or_assoc]

/-- The scan of the first lines. -/
def ofFirst (lines : List (List Char)) (k : Nat) : LoopScan := (lines.take k).foldl step start

theorem ofFirst_zero (lines : List (List Char)) : ofFirst lines 0 = start := rfl

theorem ofFirst_succ (lines : List (List Char)) (k : Nat) :
    ofFirst lines (k + 1) = lines[k]?.elim (ofFirst lines k) (ofFirst lines k).step := by
  rw [ofFirst, List.take_add_one, List.foldl_append]
  cases lines[k]? <;> rfl

variable {lines : List (List Char)}

theorem opened_ofFirst_succ (k : Nat) :
    ((ofFirst lines (k + 1)).opened : Int) =
      max 0 (((ofFirst lines k).opened : Int) + (opens lines k - closes lines k)) := by
  rw [ofFirst_succ, opens, closes]
  cases lines[k]? with
  | none => simp
  | some line => exact opened_step _ line

theorem depth_ofFirst_succ (k : Nat) :
    (ofFirst lines (k + 1)).nest.depth =
      if opens lines k = 1 then max (ofFirst lines k).nest.depth ((ofFirst lines k).opened + 1)
      else (ofFirst lines k).nest.depth := by
  rw [ofFirst_succ, opens]
  cases lines[k]? with
  | none => simp
  | some line => simp [depth_step]

/-- In front of each line as many loops are open as the best run of lines up to there leaves open.
The run without lines stands for the cut at zero. -/
theorem isGreatest_opened (lines : List (List Char)) (k : Nat) :
    IsGreatest {h | ∃ i ≤ k, h = surplus lines i k} ((ofFirst lines k).opened : Int) := by
  induction k with
  | zero =>
    rw [ofFirst_zero]
    refine ⟨⟨0, le_rfl, by simp [start]⟩, ?_⟩
    rintro h ⟨i, hi, rfl⟩
    obtain rfl : i = 0 := by omega
    simp [start]
  | succ k ih =>
    obtain ⟨⟨m, hm, heq⟩, hle⟩ := ih
    rw [opened_ofFirst_succ]
    constructor
    · rcases max_choice 0 (((ofFirst lines k).opened : Int) + (opens lines k - closes lines k))
        with hmax | hmax
      · exact ⟨k + 1, le_rfl, by rw [hmax, Loop.surplus_self]⟩
      · exact ⟨m, by omega, by rw [hmax, Loop.surplus_succ hm, heq]⟩
    · rintro h ⟨i, hi, rfl⟩
      rcases Nat.le_succ_iff.mp hi with hi | rfl
      · have hsurplus : surplus lines i k ≤ (ofFirst lines k).opened := hle ⟨i, hi, rfl⟩
        rw [Loop.surplus_succ hi]
        omega
      · rw [Loop.surplus_self]
        exact le_max_left _ _

/-- The depth after the first lines, where zero stands for no loop at all. -/
theorem isGreatest_depth (lines : List (List Char)) (n : Nat) :
    IsGreatest (insert 0 (depths lines n)) ((ofFirst lines n).nest.depth : Int) := by
  induction n with
  | zero =>
    have hnone : depths lines 0 = ∅ := by
      ext d
      simp [depths]
    rw [hnone, ofFirst_zero]
    simp [start]
  | succ n ih =>
    rw [depth_ofFirst_succ]
    split
    · rename_i hopens
      have hfront : IsGreatest {d | ∃ i ≤ n, d = 1 + surplus lines i n}
          (((ofFirst lines n).opened + 1 : Nat) : Int) := by
        obtain ⟨⟨m, hm, heq⟩, hle⟩ := isGreatest_opened lines n
        refine ⟨⟨m, hm, by rw [← heq]; omega⟩, ?_⟩
        rintro d ⟨i, hi, rfl⟩
        have hsurplus : surplus lines i n ≤ (ofFirst lines n).opened := hle ⟨i, hi, rfl⟩
        omega
      have hmax : ((max (ofFirst lines n).nest.depth ((ofFirst lines n).opened + 1) : Nat) : Int) =
          max ((ofFirst lines n).nest.depth : Int) ((ofFirst lines n).opened + 1 : Nat) := by
        omega
      rw [Loop.depths_succ_of_opens hopens, ← Set.insert_union, hmax]
      exact ih.union hfront
    · rename_i hopens
      rw [Loop.depths_succ_of_not_opens hopens]
      exact ih

end LoopScan

namespace LoopNest

open Loop (depths isOpening hasHalvingCue)

theorem ofLines_eq (lines : List (List Char)) :
    ofLines lines = (LoopScan.ofFirst lines lines.length).nest := by
  rw [ofLines, LoopScan.ofFirst, List.take_length]

/-- The nest that lines form. Its depth is the greatest surplus of openings over closings in any
run of lines in front of an opening, and one more; it halves just if an opening has a cue
for it. -/
theorem depth_halving_ofLines (lines : List (List Char)) :
    (if ∃ line ∈ lines, isOpening line = true then
      IsGreatest (depths lines lines.length) ((ofLines lines).depth : Int)
    else (ofLines lines).depth = 0) ∧
    ((ofLines lines).halving = true ↔
      ∃ line ∈ lines, isOpening line = true ∧ hasHalvingCue line = true) := by
  constructor
  · have hgreatest := LoopScan.isGreatest_depth lines lines.length
    rw [← ofLines_eq] at hgreatest
    split
    · rename_i hopening
      obtain ⟨k, hk, hopens⟩ := Loop.exists_opens_iff.mpr hopening
      -- an opening is one level by itself, so the depth is not the zero that was put in
      have hone : (1 : Int) ∈ depths lines lines.length :=
        ⟨k, k, le_rfl, hk, hopens, by simp⟩
      have hpos : 1 ≤ ((ofLines lines).depth : Int) := hgreatest.2 (.inr hone)
      refine ⟨hgreatest.1.resolve_left (by omega), fun d hd => hgreatest.2 (.inr hd)⟩
    · rename_i hopening
      rw [depth_ofLines_eq_zero_iff]
      simpa using hopening
  · rw [ofLines, LoopScan.halving_foldl]
    simp [LoopScan.start]

/-- The closing in front counts for nothing, the one in the middle ends a loop. -/
example :
    let lines := ["\x7d", "while (a)", "while (b)", "\x7d", "while (c)"]
    (ofLines (lines.map String.toList)).depth = 2 := by
  decide +kernel

end LoopNest

end GrowthScan
