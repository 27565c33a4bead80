import GrowthScan.Text.Basic
import GrowthScan.Text.Search
import Mathlib.Data.List.DropRight

/-!
# Texts made of lines

`joinLines` and the split at line feeds undo each other on lines without line
feeds. Trimming a text cuts into its first and its last line and may leave whole
lines out: `trimLines` is what is left of the lines (`trim_joinLines`). No part of a
text, and so no trimmed text, has more lines than the text
(`length_lines_le_of_infix`).
-/

namespace GrowthScan.Text

/-! ## Joined lines -/

theorem joinLines_singleton (l : List Char) : joinLines [l] = l := List.intercalate_singleton

theorem joinLines_cons {ls : List (List Char)} (l : List Char) (h : ls ≠ []) :
    joinLines (l :: ls) = l ++ '\n' :: joinLines ls := by
  rw [joinLines, joinLines, List.intercalate_cons_of_ne_nil h, List.append_assoc,
    List.singleton_append]

/-- Lines are none, one, or one in front of others, as it takes to join them. -/
@[elab_as_elim] theorem joinLines_induction {motive : List (List Char) → Prop} (nil : motive [])
    (singleton : ∀ l, motive [l]) (cons : ∀ l ls, ls ≠ [] → motive ls → motive (l :: ls))
    (ls : List (List Char)) : motive ls := by
  induction ls with
  | nil => exact nil
  | cons l ls ih =>
    by_cases h : ls = []
    · rw [h]; exact singleton l
    · exact cons l ls h ih

theorem prefix_joinLines_cons (l : List Char) (ls : List (List Char)) :
    l <+: joinLines (l :: ls) := by
  cases ls with
  | nil => exact (joinLines_singleton l).symm ▸ List.prefix_refl l
  | cons m ls =>
    rw [joinLines_cons _ (List.cons_ne_nil _ _)]
    exact List.prefix_append _ _

theorem joinLines_concat {ls : List (List Char)} (h : ls ≠ []) (l : List Char) :
    joinLines (ls ++ [l]) = joinLines ls ++ '\n' :: l := by
  induction ls using joinLines_induction with
  | nil => exact absurd rfl h
  | singleton m =>
    rw [List.singleton_append, joinLines_cons m (List.cons_ne_nil _ _), joinLines_singleton,
      joinLines_singleton]
  | cons m ls hls ih =>
    rw [List.cons_append, joinLines_cons m (by simp), ih hls, joinLines_cons m hls,
      List.append_assoc, List.cons_append]

theorem joinLines_eq_nil_iff {ls : List (List Char)} (h : ∀ l ∈ ls.getLast?, l ≠ []) :
    joinLines ls = [] ↔ ls = [] := by
  refine ⟨fun hj => ?_, fun hls => by rw [hls]; rfl⟩
  match ls with
  | [] => rfl
  | [l] => exact absurd (joinLines_singleton l ▸ hj) (h l rfl)
  | l :: m :: ls => simp [joinLines_cons] at hj

/-- No line at all is as good as one that is empty. -/
theorem joinLines_ite_eq_nil (l : List Char) : joinLines (if l = [] then [] else [l]) = l := by
  split
  · rename_i h
    exact h.symm
  · exact joinLines_singleton l

/-- A word without the character occurs on one side of it. -/
theorem infix_append_cons_iff {w : List Char} {c : Char} (h : c ∉ w) (a b : List Char) :
    w <:+: a ++ c :: b ↔ w <:+: a ∨ w <:+: b := by
  have hfront {v : List Char} (hv : c ∉ v) : v <+: c :: b → v = [] := fun hp => by
    rcases List.prefix_cons_iff.mp hp with hv' | ⟨t, rfl, -⟩
    · exact hv'
    · exact absurd List.mem_cons_self hv
  constructor
  · intro hw
    rcases List.infix_append_iff_ne_nil.mp hw with hw | hw | ⟨v₁, v₂, -, hne, rfl, -, hv⟩
    · exact .inl hw
    · rcases List.infix_cons_iff.mp hw with hw | hw
      · exact .inl (hfront h hw ▸ List.nil_infix)
      · exact .inr hw
    · exact absurd (hfront (fun hc => h (List.mem_append_right _ hc)) hv) hne
  · rintro (⟨x, y, rfl⟩ | ⟨x, y, rfl⟩)
    · exact ⟨x, y ++ c :: b, by simp⟩
    · exact ⟨a ++ c :: x, y, by simp⟩

/-- A word on one line occurs in a text where it occurs in a line. -/
theorem infix_joinLines_iff {w : List Char} (hw : w ≠ []) (h : '\n' ∉ w) {ls : List (List Char)} :
    w <:+: joinLines ls ↔ ∃ l ∈ ls, w <:+: l := by
  induction ls using joinLines_induction with
  | nil => simpa [joinLines] using hw
  | singleton l => simp [joinLines_singleton]
  | cons l ls hls ih =>
    rw [joinLines_cons l hls, infix_append_cons_iff h, ih]
    exact (List.exists_mem_cons_iff _ _ _).symm

theorem words_joinLines (ls : List (List Char)) : words (joinLines ls) = ls.flatMap words := by
  induction ls using joinLines_induction with
  | nil => exact words_nil
  | singleton l => rw [joinLines_singleton, List.flatMap_cons, List.flatMap_nil, List.append_nil]
  | cons l ls hls ih =>
    rw [joinLines_cons l hls, words_append_cons (by decide), ih, List.flatMap_cons]

/-! ## Texts taken apart at line feeds -/

/-- A text has no break, or starts with a text that has none in front of a break and more. -/
@[elab_as_elim] theorem break_induction {motive : List Char → Prop} (isBreak : Char → Bool)
    (without : ∀ l, (∀ d ∈ l, isBreak d = false) → motive l)
    (append : ∀ l c s, (∀ d ∈ l, isBreak d = false) → isBreak c = true → motive s →
      motive (l ++ c :: s)) (s : List Char) : motive s := by
  cases h : s.find? isBreak with
  | none => exact without s (by simpa using List.find?_eq_none.mp h)
  | some c =>
    obtain ⟨hc, l, t, rfl, hl⟩ := List.find?_eq_some_iff_append.mp h
    exact append l c t (by simpa using hl) hc (break_induction isBreak without append t)
termination_by s.length

/-- A text without the character, or one in front of the character and another text. -/
@[elab_as_elim] theorem separator_induction {motive : List Char → Prop} (c : Char)
    (without : ∀ l, c ∉ l → motive l)
    (append : ∀ l s, c ∉ l → motive s → motive (l ++ c :: s)) (s : List Char) : motive s := by
  have hnot {l : List Char} (hl : ∀ d ∈ l, (d == c) = false) : c ∉ l := fun hc => by
    simpa using hl c hc
  induction s using break_induction (· == c) with
  | without l hl => exact without l (hnot hl)
  | append l d s hl hd ih =>
    rw [beq_iff_eq] at hd
    subst hd
    exact append l s (hnot hl) ih

/-- A text is a line, or a line in front of a line feed and a text. -/
@[elab_as_elim] theorem line_induction {motive : List Char → Prop}
    (line : ∀ l, '\n' ∉ l → motive l)
    (append : ∀ l s, '\n' ∉ l → motive s → motive (l ++ '\n' :: s)) (s : List Char) : motive s :=
  separator_induction '\n' line append s

theorem not_mem_of_mem_splitOn (s : List Char) : ∀ l ∈ s.splitOn '\n', '\n' ∉ l := by
  induction s using line_induction with
  | line l hl => simpa [List.splitOn_eq_singleton hl] using hl
  | append l s hl ih =>
    rw [List.splitOn_append_cons_self_of_not_mem hl]
    exact List.forall_mem_cons.mpr ⟨hl, ih⟩

/-- Lines that are joined are taken apart again; without any there is an empty one. -/
theorem mem_or_eq_nil_of_mem_splitOn {ls : List (List Char)} (h : ∀ l ∈ ls, '\n' ∉ l) {l : List Char}
    (hl : l ∈ (joinLines ls).splitOn '\n') : l ∈ ls ∨ l = [] := by
  by_cases hls : ls = []
  · rw [hls] at hl
    exact .inr (List.mem_singleton.mp hl)
  · rw [joinLines, List.splitOn_intercalate _ h hls] at hl
    exact .inl hl

/-! ## Runs that end in front of a character -/

theorem takeWhile_append_cons {p : α → Bool} {c : α} (hc : p c = false) (a b : List α) :
    (a ++ c :: b).takeWhile p = a.takeWhile p := by
  rw [List.takeWhile_append, List.takeWhile_cons_of_neg (by simp [hc]), List.append_nil]
  split
  · rename_i h
    exact (List.takeWhile_prefix p).eq_of_length h |>.symm
  · rfl

theorem dropWhile_append_cons {p : α → Bool} {c : α} (hc : p c = false) (a b : List α) :
    (a ++ c :: b).dropWhile p = a.dropWhile p ++ c :: b := by
  rw [List.dropWhile_append, List.dropWhile_cons_of_neg (by simp [hc])]
  split
  · rename_i h
    rw [List.isEmpty_iff.mp h, List.nil_append]
  · rfl

theorem takeWhile_append_of_dropWhile {p : α → Bool} {a : List α} (h : a.dropWhile p ≠ [])
    (b : List α) : (a ++ b).takeWhile p = a.takeWhile p := by
  induction a with
  | nil => exact absurd rfl h
  | cons c a ih =>
    by_cases hc : p c = true
    · rw [List.dropWhile_cons_of_pos hc] at h
      rw [List.cons_append, List.takeWhile_cons_of_pos hc, List.takeWhile_cons_of_pos hc, ih h]
    · rw [List.cons_append, List.takeWhile_cons_of_neg hc, List.takeWhile_cons_of_neg hc]

theorem dropWhile_append_of_dropWhile {p : α → Bool} {a : List α} (h : a.dropWhile p ≠ [])
    (b : List α) : (a ++ b).dropWhile p = a.dropWhile p ++ b := by
  rw [List.dropWhile_append, if_neg (by simpa using h)]

theorem rtakeWhile_append_cons {p : α → Bool} {c : α} (hc : p c = false) (a b : List α) :
    (a ++ c :: b).rtakeWhile p = b.rtakeWhile p := by
  rw [List.rtakeWhile, List.reverse_append, List.reverse_cons, List.append_assoc,
    List.singleton_append, takeWhile_append_cons hc, List.rtakeWhile]

/-- A text is taken apart at the last place of a character in one way only. -/
theorem append_cons_inj_of_not_mem {c : Char} {a a' b b' : List Char} (hb : c ∉ b)
    (hb' : c ∉ b') : a ++ c :: b = a' ++ c :: b' ↔ a = a' ∧ b = b' := by
  constructor
  · intro h
    have hkept {l : List Char} (hl : c ∉ l) : l.rtakeWhile (· ≠ c) = l := by
      rw [List.rtakeWhile_eq_self_iff]
      intro d hd
      simpa using ne_of_mem_of_not_mem hd hl
    have hback := congrArg (List.rtakeWhile (· ≠ c)) h
    rw [rtakeWhile_append_cons (by simp), rtakeWhile_append_cons (by simp), hkept hb, hkept hb']
      at hback
    subst hback
    exact ⟨List.append_cancel_right h, rfl⟩
  · rintro ⟨rfl, rfl⟩
    rfl

theorem rtakeWhile_append_of_rdropWhile {p : α → Bool} {b : List α} (h : b.rdropWhile p ≠ [])
    (a : List α) : (a ++ b).rtakeWhile p = b.rtakeWhile p := by
  have hback : b.reverse.dropWhile p ≠ [] := fun hnil => h (by rw [List.rdropWhile, hnil]; rfl)
  rw [List.rtakeWhile, List.reverse_append, takeWhile_append_of_dropWhile hback, List.rtakeWhile]

/-! ## Trimming -/

theorem trimStart_append (a b : List Char) :
    trimStart (a ++ b) = if trimStart a = [] then trimStart b else trimStart a ++ b :=
  List.dropWhile_append.trans (if_congr List.isEmpty_iff rfl rfl)

theorem trimEnd_append (a b : List Char) :
    trimEnd (a ++ b) = if trimEnd b = [] then trimEnd a else a ++ trimEnd b := by
  simp only [trimEnd, List.reverse_append, List.dropWhile_append, List.isEmpty_iff,
    List.reverse_eq_nil_iff]
  split
  · rfl
  · rw [List.reverse_append, List.reverse_reverse]

theorem trimStart_eq_nil_iff {l : List Char} : trimStart l = [] ↔ ∀ c ∈ l, isBlank c = true :=
  List.dropWhile_eq_nil_iff

theorem trimEnd_eq_nil_iff {l : List Char} : trimEnd l = [] ↔ ∀ c ∈ l, isBlank c = true :=
  List.rdropWhile_eq_nil_iff

theorem trimStart_cons {c : Char} (hc : isBlank c = true) (l : List Char) :
    trimStart (c :: l) = trimStart l := List.dropWhile_cons_of_pos hc

theorem trimEnd_concat {c : Char} (hc : isBlank c = true) (l : List Char) :
    trimEnd (l ++ [c]) = trimEnd l := List.rdropWhile_concat_pos _ _ _ hc

theorem trim_concat {c : Char} (hc : isBlank c = true) (l : List Char) : trim (l ++ [c]) = trim l := by
  rw [trim, trimStart_append, trim]
  split
  · rename_i h
    rw [h, trimStart_cons hc]
    rfl
  · exact trimEnd_concat hc _

/-- The lines of a text that is trimmed in front. -/
def trimFront : List (List Char) → List (List Char)
  | [] => []
  | l :: ls => if trimStart l = [] then trimFront ls else trimStart l :: ls

/-- The lines of a text that is trimmed at its end. -/
def trimBack : List (List Char) → List (List Char)
  | [] => []
  | l :: ls =>
    if trimBack ls = [] then if trimEnd l = [] then [] else [trimEnd l] else l :: trimBack ls

/-- The lines of a text that is trimmed. -/
def trimLines (ls : List (List Char)) : List (List Char) := trimBack (trimFront ls)

theorem trimStart_joinLines (ls : List (List Char)) :
    trimStart (joinLines ls) = joinLines (trimFront ls) := by
  induction ls using joinLines_induction with
  | nil => rfl
  | singleton l =>
    rw [joinLines_singleton, trimFront]
    exact (joinLines_ite_eq_nil _).symm
  | cons l ls hls ih =>
    rw [joinLines_cons l hls, trimStart_append, trimFront]
    split
    · exact ih
    · exact (joinLines_cons _ hls).symm

/-- The last line that is left is not empty. -/
theorem ne_nil_of_mem_getLast?_trimBack {ls : List (List Char)} {l : List Char}
    (h : l ∈ (trimBack ls).getLast?) : l ≠ [] := by
  induction ls with
  | nil => cases h
  | cons m ls ih =>
    rw [trimBack] at h
    split at h
    · split at h
      · cases h
      · rename_i hm
        rw [List.getLast?_singleton, Option.mem_some] at h
        rwa [← h]
    · rename_i hls
      rw [List.getLast?_cons_of_ne_nil hls] at h
      exact ih h

theorem trimEnd_joinLines (ls : List (List Char)) :
    trimEnd (joinLines ls) = joinLines (trimBack ls) := by
  induction ls using joinLines_induction with
  | nil => rfl
  | singleton l =>
    rw [joinLines_singleton, trimBack]
    exact (joinLines_ite_eq_nil _).symm
  | cons l ls hls ih =>
    have hnil : trimEnd (joinLines ls) = [] ↔ trimBack ls = [] := by
      rw [ih, joinLines_eq_nil_iff fun _ => ne_nil_of_mem_getLast?_trimBack]
    have hbreak : trimEnd ('\n' :: joinLines ls) =
        if trimBack ls = [] then [] else '\n' :: joinLines (trimBack ls) := by
      rw [← List.singleton_append, trimEnd_append, ← ih]
      simp only [hnil]
      rfl
    rw [joinLines_cons l hls, trimEnd_append, hbreak, trimBack]
    split
    · rw [if_pos rfl]; exact (joinLines_ite_eq_nil _).symm
    · rename_i h
      rw [if_neg (List.cons_ne_nil _ _), joinLines_cons _ h]

theorem trim_joinLines (ls : List (List Char)) : trim (joinLines ls) = joinLines (trimLines ls) := by
  rw [trim, trimStart_joinLines, trimEnd_joinLines, trimLines]

theorem trim_joinLines_eq_nil_iff (ls : List (List Char)) :
    trim (joinLines ls) = [] ↔ trimLines ls = [] := by
  rw [trim_joinLines, trimLines, joinLines_eq_nil_iff fun _ => ne_nil_of_mem_getLast?_trimBack]

theorem exists_suffix_of_mem_trimFront {ls : List (List Char)} {l : List Char}
    (h : l ∈ trimFront ls) : ∃ m ∈ ls, l <:+ m := by
  induction ls with
  | nil => cases h
  | cons m ls ih =>
    rw [trimFront] at h
    split at h
    · obtain ⟨m', hm', hl⟩ := ih h
      exact ⟨m', List.mem_cons_of_mem _ hm', hl⟩
    · rcases List.mem_cons.mp h with rfl | h
      · exact ⟨m, List.mem_cons_self, List.dropWhile_suffix _⟩
      · exact ⟨l, List.mem_cons_of_mem _ h, List.suffix_refl l⟩

theorem exists_prefix_of_mem_trimBack {ls : List (List Char)} {l : List Char}
    (h : l ∈ trimBack ls) : ∃ m ∈ ls, l <+: m := by
  induction ls with
  | nil => cases h
  | cons m ls ih =>
    rw [trimBack] at h
    split at h
    · split at h
      · cases h
      · rw [List.mem_singleton.mp h]
        exact ⟨m, List.mem_cons_self, List.rdropWhile_prefix _ _⟩
    · rcases List.mem_cons.mp h with rfl | h
      · exact ⟨l, List.mem_cons_self, List.prefix_refl l⟩
      · obtain ⟨m', hm', hl⟩ := ih h
        exact ⟨m', List.mem_cons_of_mem _ hm', hl⟩

/-- Trimming puts no new characters into lines. -/
theorem not_mem_of_mem_trimLines {c : Char} {ls : List (List Char)} (h : ∀ l ∈ ls, c ∉ l) :
    ∀ l ∈ trimLines ls, c ∉ l := by
  intro l hl hc
  obtain ⟨m, hm, hlm⟩ := exists_prefix_of_mem_trimBack hl
  obtain ⟨m', hm', hmm⟩ := exists_suffix_of_mem_trimFront hm
  exact h m' hm' (hmm.subset (hlm.subset hc))

/-! ## The number of lines -/

theorem lines_of_not_mem {l : List Char} (h : '\n' ∉ l) :
    lines l = if l.isEmpty then [] else [l] := by
  rw [lines, List.splitOn_eq_singleton h]
  rfl

theorem lines_append_cons {l : List Char} (h : '\n' ∉ l) (s : List Char) :
    lines (l ++ '\n' :: s) = dropReturn l :: lines s := by
  have hparts := List.splitOn_ne_nil '\n' s
  rw [lines, List.splitOn_append_cons_self_of_not_mem h, List.dropLast_cons_of_ne_nil hparts,
    List.getLast?_cons_of_ne_nil hparts]
  rfl

/-- Whether the text ends inside of a line. -/
def endsInLine (s : List Char) : Bool := s.getLast?.any (· ≠ '\n')

theorem endsInLine_append (a b : List Char) :
    endsInLine (a ++ b) = if b = [] then endsInLine a else endsInLine b := by
  rw [endsInLine, endsInLine, endsInLine, List.getLast?_append]
  split
  · rename_i h
    rw [h]
    rfl
  · rename_i h
    rw [List.getLast?_eq_some_getLast h]
    rfl

theorem endsInLine_of_not_mem {l : List Char} (h : '\n' ∉ l) : endsInLine l = !l.isEmpty := by
  cases hlast : l.getLast? with
  | none =>
    rw [List.getLast?_eq_none_iff.mp hlast]
    rfl
  | some c =>
    have hc : c ≠ '\n' := ne_of_mem_of_not_mem (List.mem_of_getLast? hlast) h
    have hl : l ≠ [] := List.ne_nil_of_mem (List.mem_of_getLast? hlast)
    simp [endsInLine, hlast, hc, hl]

theorem count_pos_of_not_endsInLine {s : List Char} (hs : s ≠ []) (h : endsInLine s = false) :
    0 < s.count '\n' := by
  have hlast := List.getLast?_eq_some_getLast hs
  rw [endsInLine, hlast, Option.any_some, decide_eq_false_iff_not, not_not] at h
  exact List.count_pos_iff.mpr (h ▸ List.getLast_mem hs)

/-- A text has a line for each line feed, and one more if it does not end with a line feed. -/
theorem length_lines (s : List Char) :
    (lines s).length = s.count '\n' + (endsInLine s).toNat := by
  induction s using line_induction with
  | line l hl =>
    rw [lines_of_not_mem hl, List.count_eq_zero_of_not_mem hl, endsInLine_of_not_mem hl]
    cases l <;> rfl
  | append l s hl ih =>
    have hends : endsInLine (l ++ '\n' :: s) = endsInLine s := by
      rw [List.append_cons, endsInLine_append]
      split
      · rename_i h
        rw [endsInLine_append, h]
        rfl
      · rfl
    rw [lines_append_cons hl, List.length_cons, ih, hends, List.count_append,
      List.count_eq_zero_of_not_mem hl, List.count_cons_self]
    omega

/-- A part of a text has no more lines than the text. -/
theorem length_lines_le_of_infix {t s : List Char} (h : t <:+: s) :
    (lines t).length ≤ (lines s).length := by
  obtain ⟨p, q, rfl⟩ := h
  rw [length_lines, length_lines, List.count_append, List.count_append, endsInLine_append]
  split
  · rw [endsInLine_append]
    split
    · rename_i ht
      rw [ht]
      exact Nat.zero_le _
    · omega
  · rename_i hq
    cases hends : endsInLine q with
    | false =>
      have hcount := count_pos_of_not_endsInLine hq hends
      have hle := Bool.toNat_le (endsInLine t)
      omega
    | true =>
      have hle := Bool.toNat_le (endsInLine t)
      rw [Bool.toNat_true]
      omega

theorem length_lines_trim_le (s : List Char) : (lines (trim s)).length ≤ (lines s).length :=
  length_lines_le_of_infix
    ((List.rdropWhile_prefix isBlank (trimStart s)).isInfix.trans
      (List.dropWhile_suffix isBlank).isInfix)

end GrowthScan.Text
