import GrowthScan.Analysis
import GrowthScan.Proofs.Space.Merge

/-!
# What each detector can find

The classes that the detectors report, and when. An algorithm is reported by its
own finding or not at all (`Algorithm.growth_detect_eq_iff`); a loop nest has the
class of its depth (`LoopNest.growth_finding`), which is constant only without
loops (`LoopNest.depth_ofLines_eq_zero_iff`) and at most the number of lines
(`LoopNest.depth_ofLines_le`); recursion is constant only without
calls (`SelfCalls.growth_finding_eq_constant_iff`), and several calls on a line
are calls (`SelfCalls.isRecursive_of_several`); the catalog knows linearithmic
and linear calls, the former all named after `sort`
(`LibraryCall.exists_linearithmic_iff`, `LibraryCall.exists_linear_iff`).
-/

namespace GrowthScan

/-! ## Algorithms -/

namespace Algorithm

theorem exists_iff {p : Algorithm → Prop} :
    (∃ a, p a) ↔ p binarySearch ∨ p quickSort ∨ p mergeSort ∨ p memoizedFibonacci := by
  refine ⟨?_, ?_⟩
  · rintro ⟨a, h⟩
    cases a <;> simp only [h, true_or, or_true]
  · rintro (h | h | h | h) <;> exact ⟨_, h⟩

theorem detect_eq_or (text : List Char) :
    detect text = noFinding ∨ ∃ a : Algorithm, detect text = a.finding := by
  unfold detect
  cases recognize? text with
  | none => exact .inl rfl
  | some a => exact .inr ⟨a, rfl⟩

/-- A class other than the constant one is reported for an algorithm of that class. -/
theorem growth_detect_eq_iff {text : List Char} {g : Growth} (hg : g ≠ .constant) :
    (detect text).growth = g ↔ ∃ a : Algorithm, a.finding.growth = g ∧ detect text = a.finding := by
  refine ⟨fun h => ?_, fun ⟨a, ha, hd⟩ => by rw [hd, ha]⟩
  rcases detect_eq_or text with hd | ⟨a, hd⟩
  · rw [hd] at h; exact absurd h.symm hg
  · exact ⟨a, by rw [← hd]; exact h, hd⟩

end Algorithm

/-! ## Loops -/

namespace LoopScan

/-- A line opens a loop or leaves the depth as it is. -/
theorem depth_step (s : LoopScan) (line : List Char) :
    (s.step line).nest.depth =
      if Loop.isOpening line then max s.nest.depth (s.opened + 1) else s.nest.depth := by
  simp only [step, openLoop]
  cases Loop.isOpening line <;> cases Loop.isClosing line <;> rfl

theorem opened_step_le (s : LoopScan) (line : List Char) : (s.step line).opened ≤ s.opened + 1 := by
  simp only [step, openLoop]
  cases Loop.isOpening line <;> cases Loop.isClosing line <;> simp; omega

/-- Each further line makes the nest deeper by one level at most. -/
theorem depth_foldl_le (lines : List (List Char)) (s : LoopScan) :
    (lines.foldl step s).nest.depth ≤ max s.nest.depth (s.opened + lines.length) := by
  induction lines generalizing s with
  | nil => exact Nat.le_max_left _ _
  | cons l lines ih =>
    have hdepth : (s.step l).nest.depth ≤ max s.nest.depth (s.opened + 1) := by
      rw [depth_step]
      split <;> omega
    have hopened := opened_step_le s l
    have hrest := ih (s.step l)
    rw [List.foldl_cons, List.length_cons]
    omega

theorem depth_foldl_eq_zero_iff (lines : List (List Char)) (s : LoopScan) :
    (lines.foldl step s).nest.depth = 0 ↔
      s.nest.depth = 0 ∧ ∀ l ∈ lines, Loop.isOpening l = false := by
  induction lines generalizing s with
  | nil => simp
  | cons l lines ih =>
    rw [List.foldl_cons, ih, depth_step, List.forall_mem_cons, ← and_assoc]
    refine and_congr_left fun _ => ?_
    cases Loop.isOpening l
    · simp
    · simp only [if_true, Bool.true_eq_false, and_false, iff_false]; omega

end LoopScan

namespace LoopNest

theorem depth_ofLines_le (lines : List (List Char)) :
    (ofLines lines).depth ≤ lines.length :=
  Nat.le_trans (LoopScan.depth_foldl_le lines .start) (by simp [LoopScan.start])

theorem depth_ofLines_eq_zero_iff (lines : List (List Char)) :
    (ofLines lines).depth = 0 ↔ ∀ l ∈ lines, Loop.isOpening l = false :=
  (LoopScan.depth_foldl_eq_zero_iff lines .start).trans (and_iff_right rfl)

/-- The class of a nest, by depth: the polynomials start above the third level. -/
theorem growth_eq_cases (n : LoopNest) :
    n.depth = 0 ∧ n.growth = .constant ∨
      n.depth = 1 ∧ n.growth = (if n.halving then .logarithmic else .linear) ∨
      n.depth = 2 ∧ n.growth = .quadratic ∨ n.depth = 3 ∧ n.growth = .cubic ∨
      3 < n.depth ∧ ∃ d, n.growth = .polynomial d := by
  obtain ⟨depth, halving⟩ := n
  match depth, halving with
  | 0, _ => simp [growth]
  | 1, true => simp [growth]
  | 1, false => simp [growth]
  | 2, _ => simp [growth]
  | 3, _ => simp [growth]
  | depth + 4, _ => exact .inr (.inr (.inr (.inr ⟨by simp only; omega, _, rfl⟩)))

theorem growth_finding (n : LoopNest) : n.finding.growth = n.growth := by
  obtain ⟨depth, halving⟩ := n
  unfold finding
  split
  · rename_i h; simp only at h; subst h; rfl
  · split
    · rename_i h
      simp only [Bool.and_eq_true, decide_eq_true_eq] at h
      obtain ⟨rfl, rfl⟩ := h
      rfl
    · rfl

theorem growth_finding_eq_iff {n : LoopNest} {g : Growth} (hg : g.isRanked = true) :
    n.finding.growth = g ↔
      n.depth = 0 ∧ .constant = g ∨
      n.depth = 1 ∧ (if n.halving then .logarithmic else .linear) = g ∨
      n.depth = 2 ∧ .quadratic = g ∨ n.depth = 3 ∧ .cubic = g := by
  rw [growth_finding]
  rcases growth_eq_cases n with ⟨h, hn⟩ | ⟨h, hn⟩ | ⟨h, hn⟩ | ⟨h, hn⟩ | ⟨h, d, hn⟩ <;> rw [hn]
  · simp [h]
  · simp [h]
  · simp [h]
  · simp [h]
  · refine iff_of_false (fun he => ?_) (by omega)
    rw [← he] at hg
    cases hg

/-- The loops matter where a line opens one. -/
theorem growth_finding_ofLines_ne_constant_iff (lines : List (List Char)) :
    (ofLines lines).finding.growth ≠ .constant ↔ ∃ l ∈ lines, Loop.isOpening l = true := by
  have hd : (ofLines lines).finding.growth = .constant ↔ (ofLines lines).depth = 0 := by
    rw [growth_finding_eq_iff rfl]
    cases (ofLines lines).halving <;> simp
  rw [Ne, hd, depth_ofLines_eq_zero_iff]
  simp

end LoopNest

/-! ## Self-calls -/

namespace SelfCalls

/-- The four findings on recursion, and when each is reported. -/
theorem finding_eq_cases (s : SelfCalls) (lowered : List Char) :
    s.calls = 0 ∧ s.finding lowered = noFinding ∨
      0 < s.calls ∧ (Text.occurs "fibonacci".toList lowered = true ∧ s.several = true) ∧
        s.finding lowered = exponentialFinding ∨
      0 < s.calls ∧ ¬(Text.occurs "fibonacci".toList lowered = true ∧ s.several = true) ∧
        (s.finding lowered = halvingFinding ∨ s.finding lowered = linearFinding) := by
  unfold finding
  split
  · rename_i h
    simp only [isRecursive, Bool.not_eq_true', decide_eq_false_iff_not] at h
    exact .inl ⟨Nat.eq_zero_of_not_pos h, rfl⟩
  · rename_i h
    simp only [isRecursive, Bool.not_eq_true', decide_eq_false_iff_not, Nat.not_lt, Nat.not_le] at h
    split
    · rename_i hf
      exact .inr (.inl ⟨h, by simpa only [Bool.and_eq_true] using hf, rfl⟩)
    · rename_i hf
      refine .inr (.inr ⟨h, by simpa only [Bool.and_eq_true] using hf, ?_⟩)
      split
      · exact .inl rfl
      · exact .inr rfl

theorem growth_finding_eq_constant_iff {s : SelfCalls} {lowered : List Char} :
    (s.finding lowered).growth = .constant ↔ s.calls = 0 := by
  rcases finding_eq_cases s lowered with ⟨h, hf⟩ | ⟨h, -, hf⟩ | ⟨h, -, hf | hf⟩ <;> rw [hf]
  · exact iff_of_true rfl h
  all_goals exact iff_of_false (by decide) (by omega)

theorem growth_finding_eq_exponential_iff {s : SelfCalls} {lowered : List Char} :
    (s.finding lowered).growth = .exponential ↔
      0 < s.calls ∧ "fibonacci".toList <:+: lowered ∧ s.several = true := by
  rw [← Text.occurs_iff]
  rcases finding_eq_cases s lowered with ⟨h, hf⟩ | ⟨h, hc, hf⟩ | ⟨h, hc, hf | hf⟩ <;> rw [hf]
  · exact iff_of_false (by decide) fun hn => by omega
  · exact iff_of_true rfl ⟨h, hc⟩
  all_goals exact iff_of_false (by decide) fun hn => hc hn.2

theorem growth_finding_eq_logarithmic_iff {s : SelfCalls} {lowered : List Char} :
    (s.finding lowered).growth = .logarithmic ↔ s.finding lowered = halvingFinding := by
  rcases finding_eq_cases s lowered with ⟨-, hf⟩ | ⟨-, -, hf⟩ | ⟨-, -, hf | hf⟩ <;> rw [hf] <;> decide

theorem growth_finding_eq_linear_iff {s : SelfCalls} {lowered : List Char} :
    (s.finding lowered).growth = .linear ↔ s.finding lowered = linearFinding := by
  rcases finding_eq_cases s lowered with ⟨-, hf⟩ | ⟨-, -, hf⟩ | ⟨-, -, hf | hf⟩ <;> rw [hf] <;> decide

theorem growth_finding_ne {s : SelfCalls} {lowered : List Char} {g : Growth}
    (hg : g ∈ [.linearithmic, .quadratic, .cubic]) : (s.finding lowered).growth ≠ g := by
  rintro rfl
  revert hg
  rcases finding_eq_cases s lowered with ⟨-, hf⟩ | ⟨-, -, hf⟩ | ⟨-, -, hf | hf⟩ <;> rw [hf] <;> decide

/-- Several calls on one line are calls. -/
theorem isRecursive_of_several {code : List Char} {lines : List (List Char)}
    (h : (scan code lines).several = true) : 0 < (scan code lines).calls := by
  unfold scan at h ⊢
  split at h
  · cases h
  · simp only [List.any_eq_true, decide_eq_true_eq] at h
    obtain ⟨n, hn, h1⟩ := h
    exact List.sum_pos_iff_exists_pos_nat.mpr ⟨n, hn, by omega⟩

end SelfCalls

/-! ## Space -/

namespace Space

/-- Memory grows at most quadratically, and its class is ranked. -/
theorem height_estimate (code : List Char) (recursion : Growth) :
    0 < (estimate code recursion).height ∧
      (estimate code recursion).height ≤ Growth.quadratic.height := by
  obtain ⟨hranked, hle⟩ := height_worse_le code recursion
  unfold estimate
  split
  · decide
  · exact ⟨hranked, hle.trans (by decide)⟩

end Space

/-! ## Library calls -/

namespace LibraryCall

theorem occursIn_iff {l : LibraryCall} {code : List Char} :
    l.occursIn code = true ↔ l.name.toList <:+: code := Text.occurs_iff

@[simp] theorem growth_finding (l : LibraryCall) : l.finding.growth = l.growth := rfl

theorem growth_eq_or_of_mem_catalog {l : LibraryCall} (h : l ∈ catalog) :
    l.growth = .linearithmic ∨ l.growth = .linear := by
  simp only [catalog, List.mem_cons, List.not_mem_nil, or_false] at h
  rcases h with rfl | rfl | rfl | rfl | rfl | rfl | rfl | rfl | rfl | rfl <;>
    first | exact .inl rfl | exact .inr rfl

/-- Each linearithmic call has `sort` in its name, and `sort` is one of them. -/
theorem exists_linearithmic_iff {code : List Char} :
    (∃ l ∈ catalog, l.name.toList <:+: code ∧ l.growth = .linearithmic) ↔
      "sort".toList <:+: code := by
  refine ⟨fun ⟨l, hl, ho, hg⟩ => ?_, fun h => ⟨_, List.mem_cons_self, h, rfl⟩⟩
  refine List.IsInfix.trans ?_ ho
  simp only [catalog, List.mem_cons, List.not_mem_nil, or_false] at hl
  rcases hl with rfl | rfl | rfl | rfl | rfl | rfl | rfl | rfl | rfl | rfl
  · exact List.infix_refl _
  · exact ⟨[], "ed".toList, rfl⟩
  · exact ⟨"Arrays.".toList, [], rfl⟩
  · exact ⟨"Collections.".toList, [], rfl⟩
  · exact ⟨"q".toList, [], rfl⟩
  all_goals exact absurd hg (by decide)

theorem nodup_names_catalog : (catalog.map (·.name)).Nodup := by decide

theorem exists_linear_iff {code : List Char} :
    (∃ l ∈ catalog, l.name.toList <:+: code ∧ l.growth = .linear) ↔
      ∃ w ∈ ["find", "indexOf", "reverse", "max", "min"], w.toList <:+: code := by
  simp [catalog]

end LibraryCall

end GrowthScan
