import GrowthScan.Proofs.Text.Case
import GrowthScan.Proofs.Text.Margins
import Mathlib.Algebra.Ring.Nat

/-!
# Counting the places of a word

The places of a word in a text are those in its pieces, wherever a character cuts the
text that is no part of the word (`occurrences_append_cons`). So a word without
blanks has its places in the trimmed lines of a text, each in one of them
(`sum_occurrences_lines`).

A call is a name and an opening parenthesis. In front of each parenthesis of a text
stands a word, empty or not (`calledNames`), and a call has a place wherever such a
word ends in its name (`occurrences_call`).
-/

namespace GrowthScan.Text

theorem isWord_of_isBlank {c : Char} (h : isBlank c = true) : isWord c = false := by
  have hall : ∀ n ∈ blankPoints, isWord (Char.ofNat n) = false := by decide +kernel
  exact of_toNat_mem (p := (isWord · = false)) hall (toNat_mem_blankPoints h)

/-- A reading that sees no blank at either end of a text reads the trimmed text the same. -/
theorem apply_trim {f : List Char → α} (hcons : ∀ c s, isBlank c = true → f (c :: s) = f s)
    (hconcat : ∀ c s, isBlank c = true → f (s ++ [c]) = f s) (s : List Char) :
    f (trim s) = f s := by
  have hstart : f (trimStart s) = f s := by
    induction s with
    | nil => rfl
    | cons c s ih =>
      by_cases hc : isBlank c = true
      · rw [trimStart_cons hc, ih, hcons c s hc]
      · rw [trimStart, List.dropWhile_cons_of_neg hc]
  rw [trim, ← hstart]
  generalize trimStart s = s
  induction s using List.reverseRecOn with
  | nil => rfl
  | append_singleton s c ih =>
    by_cases hc : isBlank c = true
    · rw [trimEnd_concat hc, ih, hconcat c s hc]
    · have htrim : trimEnd (s ++ [c]) = s ++ [c] := List.rdropWhile_concat_neg _ _ _ hc
      rw [htrim]

theorem occurrences_cons (w : List Char) (c : Char) (s : List Char) :
    occurrences w (c :: s) = (if w <+: c :: s then 1 else 0) + occurrences w s := by
  simp only [occurrences, after?_isSome_iff]

theorem prefix_append_cons_iff {w : List Char} {c : Char} (h : c ∉ w) (a b : List Char) :
    w <+: a ++ c :: b ↔ w <+: a := by
  refine ⟨fun hw => ?_, fun hw => hw.trans (List.prefix_append _ _)⟩
  rcases List.prefix_or_prefix_of_prefix hw (List.prefix_append a (c :: b)) with hwa | haw
  · exact hwa
  · obtain ⟨t, rfl⟩ := haw
    rw [List.prefix_append_right_inj] at hw
    cases t with
    | nil => simp
    | cons d t =>
      obtain ⟨rfl, -⟩ := List.cons_prefix_cons.mp hw
      exact absurd (List.mem_append_right _ List.mem_cons_self) h

section

variable {w : List Char} (hw : w ≠ [])

include hw

theorem occurrences_nil : occurrences w [] = 0 := by
  rw [occurrences, if_neg (by simpa using hw)]

theorem occurrences_append_cons {c : Char} (hc : c ∉ w) (a b : List Char) :
    occurrences w (a ++ c :: b) = occurrences w a + occurrences w b := by
  induction a with
  | nil =>
    have hfront : ¬ w <+: c :: b := by
      rw [← List.nil_append (c :: b), prefix_append_cons_iff hc, List.prefix_nil]
      exact hw
    rw [List.nil_append, occurrences_cons, if_neg hfront, occurrences_nil hw]
  | cons d a ih =>
    have hfront : w <+: d :: (a ++ c :: b) ↔ w <+: d :: a := prefix_append_cons_iff hc (d :: a) b
    rw [List.cons_append, occurrences_cons, occurrences_cons, ih, Nat.add_assoc]
    simp only [hfront]

theorem occurrences_of_not_mem {c : Char} (hc : c ∈ w) {s : List Char} (hs : c ∉ s) :
    occurrences w s = 0 := by
  induction s with
  | nil => exact occurrences_nil hw
  | cons d s ih =>
    have hfront : ¬ w <+: d :: s := fun h => hs (h.subset hc)
    rw [occurrences_cons, if_neg hfront, ih fun h => hs (List.mem_cons_of_mem _ h)]

theorem occurrences_pos_iff {s : List Char} : 0 < occurrences w s ↔ w <:+: s := by
  induction s with
  | nil => simp [occurrences_nil hw, hw]
  | cons c s ih =>
    rw [occurrences_cons, List.infix_cons_iff, ← ih]
    split
    · rename_i h
      exact iff_of_true (by omega) (.inl h)
    · rename_i h
      rw [eq_false h, false_or, Nat.zero_add]

/-! ## Words in lines -/

theorem occurrences_trim (hblank : ∀ c ∈ w, isBlank c = false) (s : List Char) :
    occurrences w (trim s) = occurrences w s := by
  have hmem {c : Char} (hc : isBlank c = true) : c ∉ w := fun h => by
    rw [hblank c h] at hc
    cases hc
  refine apply_trim (fun c s hc => ?_) (fun c s hc => ?_) s
  · rw [← List.nil_append (c :: s), occurrences_append_cons hw (hmem hc), occurrences_nil hw,
      Nat.zero_add]
  · rw [occurrences_append_cons hw (hmem hc), occurrences_nil hw, Nat.add_zero]

/-- A word without blanks has its places in the lines of a text, also when they are trimmed. -/
theorem sum_occurrences_lines (hblank : ∀ c ∈ w, isBlank c = false) (s : List Char) :
    (((lines s).map trim).map (occurrences w)).sum = occurrences w s := by
  induction s using line_induction with
  | line l hl =>
    rw [lines_of_not_mem hl]
    cases l with
    | nil => exact (occurrences_nil hw).symm
    | cons c l => simp [occurrences_trim hw hblank]
  | append l s hl ih =>
    have hbreak : '\n' ∉ w := fun h => absurd (hblank _ h) (by decide)
    rw [lines_append_cons hl, occurrences_append_cons hw hbreak, List.map_cons, List.map_cons,
      List.sum_cons, ih, IgnoresMargins.trim.dropReturn_eq, occurrences_trim hw hblank]

end

/-! ## Calls -/

/-- The word in front of each opening parenthesis of a text, which is empty if no word character
stands there. -/
def calledNames (s : List Char) : List (List Char) :=
  (s.splitOn '(').dropLast.map (List.rtakeWhile isWord)

theorem calledNames_of_not_mem {s : List Char} (h : '(' ∉ s) : calledNames s = [] := by
  rw [calledNames, List.splitOn_eq_singleton h]
  rfl

theorem calledNames_append_cons {l : List Char} (h : '(' ∉ l) (s : List Char) :
    calledNames (l ++ '(' :: s) = l.rtakeWhile isWord :: calledNames s := by
  rw [calledNames, List.splitOn_append_cons_self_of_not_mem h,
    List.dropLast_cons_of_ne_nil (List.splitOn_ne_nil _ _), List.map_cons, calledNames]

theorem calledNames_trim (s : List Char) : calledNames (trim s) = calledNames s := by
  refine apply_trim (fun c s hc => ?_) (fun c s hc => ?_) s
  all_goals
    have hword := isWord_of_isBlank hc
    have hne : '(' ≠ c := fun h => absurd (h ▸ hc) (by decide)
  · induction s using separator_induction '(' with
    | without l hl =>
      rw [calledNames_of_not_mem hl, calledNames_of_not_mem (by simp [hne, hl])]
    | append l s hl ih =>
      rw [← List.cons_append, calledNames_append_cons hl,
        calledNames_append_cons (by simp [hne, hl]), ← List.nil_append (c :: l),
        rtakeWhile_append_cons hword]
  · induction s using separator_induction '(' with
    | without l hl =>
      rw [calledNames_of_not_mem hl, calledNames_of_not_mem (by simp [hne, hl])]
    | append l s hl ih =>
      rw [List.append_assoc, List.cons_append, calledNames_append_cons hl, ih,
        calledNames_append_cons hl]

/-- What stands in front of a parenthesis is called there. -/
theorem rtakeWhile_mem_calledNames (a b : List Char) :
    a.rtakeWhile isWord ∈ calledNames (a ++ '(' :: b) := by
  induction a using separator_induction '(' with
  | without l hl => rw [calledNames_append_cons hl]; exact List.mem_cons_self
  | append l s hl ih =>
    rw [rtakeWhile_append_cons (by decide), List.append_assoc, List.cons_append,
      calledNames_append_cons hl]
    exact List.mem_cons_of_mem _ ih

/-- A word is at the end of a text where it is at the end of the text's last word. -/
theorem suffix_rtakeWhile_iff {p : Char → Bool} {v : List Char} (h : ∀ c ∈ v, p c = true)
    (l : List Char) : v <:+ l.rtakeWhile p ↔ v <:+ l := by
  refine ⟨fun hv => hv.trans (List.rtakeWhile_suffix p l), ?_⟩
  rintro ⟨front, rfl⟩
  induction v using List.reverseRecOn with
  | nil => exact List.nil_suffix
  | append_singleton v c ih =>
    rw [← List.append_assoc, List.rtakeWhile_concat_pos _ _ _ (h c (by simp)),
      List.suffix_append_self_iff]
    exact ih fun d hd => h d (List.mem_append_left _ hd)

/-- A call stands in front of a text where the text is called by just its name. -/
theorem call_prefix_iff {name l : List Char} (hname : '(' ∉ name) (hl : '(' ∉ l) (s : List Char) :
    name ++ ['('] <+: l ++ '(' :: s ↔ name = l := by
  refine ⟨fun ⟨t, ht⟩ => ?_, fun h => h ▸ ⟨s, by simp⟩⟩
  rw [List.append_assoc, List.singleton_append] at ht
  have hparts := congrArg (List.splitOn '(') ht
  rw [List.splitOn_append_cons_self_of_not_mem hname,
    List.splitOn_append_cons_self_of_not_mem hl] at hparts
  exact (List.cons.inj hparts).1

/-- In front of a parenthesis there is a place for a call of what stands there. -/
theorem occurrences_append_parenthesis {name l : List Char} (hname : '(' ∉ name) (hl : '(' ∉ l)
    (s : List Char) : occurrences (name ++ ['(']) (l ++ '(' :: s) =
      (if name <:+ l then 1 else 0) + occurrences (name ++ ['(']) s := by
  induction l with
  | nil =>
    have hfront := call_prefix_iff hname hl s
    rw [List.nil_append] at hfront ⊢
    rw [occurrences_cons]
    simp only [hfront, List.suffix_nil]
  | cons d l ih =>
    have hfront : name ++ ['('] <+: d :: (l ++ '(' :: s) ↔ name = d :: l :=
      call_prefix_iff hname hl s
    have hlonger : ¬ d :: l <:+ l := fun h => by
      have := h.length_le
      rw [List.length_cons] at this
      omega
    rw [List.cons_append, occurrences_cons, ih fun h => hl (List.mem_cons_of_mem _ h)]
    simp only [hfront, List.suffix_cons_iff]
    by_cases h : name = d :: l
    · simp [h, hlonger]
    · simp [h]

/-- The places of a call are the words in front of parentheses that end in its name. -/
theorem occurrences_call {name : List Char} (hname : ∀ c ∈ name, isWord c = true) (s : List Char) :
    occurrences (name ++ ['(']) s = (calledNames s).countP fun w => decide (name <:+ w) := by
  have hparenthesis : '(' ∉ name := fun h => absurd (hname _ h) (by decide)
  induction s using separator_induction '(' with
  | without l hl =>
    rw [calledNames_of_not_mem hl, List.countP_nil,
      occurrences_of_not_mem (by simp) (List.mem_append_right _ List.mem_cons_self) hl]
  | append l s hl ih =>
    rw [calledNames_append_cons hl, occurrences_append_parenthesis hparenthesis hl, ih,
      List.countP_cons, Nat.add_comm]
    simp only [decide_eq_true_eq, suffix_rtakeWhile_iff hname]

end GrowthScan.Text
