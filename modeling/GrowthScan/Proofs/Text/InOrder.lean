import GrowthScan.Proofs.Text.Lines
import Mathlib.Data.Set.Basic

/-!
# Words in order

`inOrder` takes each word at its first place. No other place leaves more of the text to the
words behind (`suffix_of_firstSome`), so that the search fails only where the words
do not stand one after another at all (`inOrder_iff`).

A pattern is a sequence of words with anything but a line feed between two of them. The texts
it describes are `spaced`, and a text has one of them in it where one of its lines has the
words in order (`exists_spaced_infix_iff`), or at its front where the first word is there and its
line has the others behind it (`exists_spaced_prefix_iff`).
-/

namespace GrowthScan.Text

/-- The words stand one after another in the text, without overlap. -/
inductive InOrder : List (List Char) → List Char → Prop
  | nil (s : List Char) : InOrder [] s
  | cons (front w : List Char) {ws : List (List Char)} {rest : List Char} (h : InOrder ws rest) :
    InOrder (w :: ws) (front ++ (w ++ rest))

variable {w : List Char} {ws : List (List Char)} {r s t : List Char}

theorem inOrder_cons_iff :
    InOrder (w :: ws) s ↔ ∃ front rest, s = front ++ (w ++ rest) ∧ InOrder ws rest := by
  constructor
  · intro h
    cases h with
    | cons front _ h => exact ⟨front, _, rfl, h⟩
  · rintro ⟨front, rest, rfl, h⟩
    exact .cons front w h

/-- More text in front does no harm. -/
theorem InOrder.of_suffix (h : InOrder ws s) (hst : s <:+ t) : InOrder ws t := by
  obtain ⟨more, rfl⟩ := hst
  cases h with
  | nil => exact .nil _
  | cons front w h =>
    rw [← List.append_assoc]
    exact .cons (more ++ front) w h

/-! ## The first place of a word -/

theorem exists_of_firstSome (h : firstSome (after? w) s = some r) :
    ∃ front, s = front ++ (w ++ r) := by
  induction s with
  | nil => exact ⟨[], (after?_eq_some_iff (w := w)).mp h⟩
  | cons c s ih =>
    rw [firstSome] at h
    split at h
    · rename_i hhere
      rw [Option.some.injEq] at h
      subst h
      exact ⟨[], (after?_eq_some_iff (w := w)).mp hhere⟩
    · obtain ⟨front, rfl⟩ := ih h
      exact ⟨c :: front, rfl⟩

/-- What follows a word at any of its places is at the end of what follows it at the first. -/
theorem suffix_of_firstSome (h : firstSome (after? w) s = some r) {front rest : List Char}
    (hs : s = front ++ (w ++ rest)) : rest <:+ r := by
  have hrest : rest <:+ s := ⟨front ++ w, by rw [hs, List.append_assoc]⟩
  have hr : r <:+ s := by
    obtain ⟨before, hbefore⟩ := exists_of_firstSome h
    exact ⟨before ++ w, by rw [hbefore, List.append_assoc]⟩
  refine List.suffix_of_suffix_length_le hrest hr ?_
  clear hrest hr
  induction s generalizing front with
  | nil =>
    obtain ⟨-, hnil⟩ := List.append_eq_nil_iff.mp hs.symm
    rw [(List.append_eq_nil_iff.mp hnil).2]
    exact Nat.zero_le _
  | cons c s ih =>
    rw [firstSome] at h
    split at h
    · -- the word is at the front, where the longest rest follows it
      rename_i hhere
      rw [Option.some.injEq] at h
      subst h
      have hlength := congrArg List.length (after?_eq_some_iff.mp hhere)
      rw [hs] at hlength
      simp only [List.length_append] at hlength
      omega
    · rename_i hhere
      cases front with
      | nil =>
        rw [(after?_eq_some_iff (w := w)).mpr hs] at hhere
        cases hhere
      | cons d front => exact ih h (List.cons.inj hs).2

/-- Taking each word at its first place finds the words wherever they stand in order. -/
theorem inOrder_iff : inOrder ws s = true ↔ InOrder ws s := by
  induction ws generalizing s with
  | nil => exact iff_of_true rfl (.nil s)
  | cons w ws ih =>
    rw [inOrder]
    cases hfirst : firstSome (after? w) s with
    | none =>
      refine iff_of_false (by simp) fun h => ?_
      obtain ⟨front, rest, hs, -⟩ := inOrder_cons_iff.mp h
      have hsome : (firstSome (after? w) s).isSome = true :=
        firstSome_isSome_iff.mpr ⟨w ++ rest, ⟨front, hs.symm⟩,
          after?_isSome_iff.mpr (List.prefix_append w rest)⟩
      rw [hfirst] at hsome
      cases hsome
    | some r =>
      show inOrder ws r = true ↔ _
      rw [ih]
      constructor
      · intro h
        obtain ⟨front, rfl⟩ := exists_of_firstSome hfirst
        exact .cons front w h
      · intro h
        obtain ⟨front, rest, hs, hrest⟩ := inOrder_cons_iff.mp h
        exact hrest.of_suffix (suffix_of_firstSome hfirst hs)

/-! ## Patterns -/

/-- What is on one line occurs in a text where it occurs in one of its lines. -/
theorem infix_iff_splitOn (ht : '\n' ∉ t) (s : List Char) :
    t <:+: s ↔ ∃ line ∈ s.splitOn '\n', t <:+: line := by
  induction s using line_induction with
  | line l hl => simp [List.splitOn_eq_singleton hl]
  | append l s hl ih =>
    rw [infix_append_cons_iff ht, List.splitOn_append_cons_self_of_not_mem hl, ih,
      List.exists_mem_cons_iff]

/-- The texts on one line. -/
def gap : Set (List Char) := {s | '\n' ∉ s}

theorem append_mem_gap_iff : s ++ t ∈ gap ↔ s ∈ gap ∧ t ∈ gap := by
  show '\n' ∉ s ++ t ↔ '\n' ∉ s ∧ '\n' ∉ t
  rw [List.mem_append, not_or]

/-- The texts of the words in order, from the first to the last, with a gap between any two. -/
def spaced : List (List Char) → Set (List Char)
  | [] => {[]}
  | [w] => {w}
  | w :: v :: ws => {s | ∃ between ∈ gap, ∃ rest ∈ spaced (v :: ws), s = w ++ (between ++ rest)}

theorem mem_spaced_cons_iff (hws : ws ≠ []) :
    s ∈ spaced (w :: ws) ↔ ∃ between ∈ gap, ∃ rest ∈ spaced ws, s = w ++ (between ++ rest) := by
  obtain ⟨v, vs, rfl⟩ := List.exists_cons_of_ne_nil hws
  rfl

/-- A line has the words in order where it has one of their texts in it. -/
theorem inOrder_iff_exists_spaced (hs : s ∈ gap) : InOrder ws s ↔ ∃ t ∈ spaced ws, t <:+: s := by
  induction ws generalizing s with
  | nil => exact iff_of_true (.nil s) ⟨[], rfl, List.nil_infix⟩
  | cons w ws ih =>
    rw [inOrder_cons_iff]
    by_cases hws : ws = []
    · subst hws
      constructor
      · rintro ⟨front, rest, rfl, -⟩
        exact ⟨w, rfl, front, rest, List.append_assoc _ _ _⟩
      · rintro ⟨_, rfl, front, rest, rfl⟩
        exact ⟨front, rest, List.append_assoc _ _ _, .nil rest⟩
    · constructor
      · rintro ⟨front, rest, rfl, h⟩
        simp only [append_mem_gap_iff] at hs
        obtain ⟨t, ht, between, after, rfl⟩ := (ih hs.2.2).mp h
        simp only [append_mem_gap_iff] at hs
        exact ⟨w ++ (between ++ t), (mem_spaced_cons_iff hws).mpr
          ⟨between, hs.2.2.1.1, t, ht, rfl⟩, front, after, by simp only [List.append_assoc]⟩
      · rintro ⟨_, hspaced, front, after, rfl⟩
        obtain ⟨between, -, t, ht, rfl⟩ := (mem_spaced_cons_iff hws).mp hspaced
        simp only [append_mem_gap_iff] at hs
        refine ⟨front, between ++ t ++ after, by simp only [List.append_assoc], (ih ?_).mpr
          ⟨t, ht, between, after, rfl⟩⟩
        simp only [append_mem_gap_iff]
        exact ⟨hs.1.2.2, hs.2⟩

/-- A pattern of words on one line describes texts on one line. -/
theorem mem_gap_of_mem_spaced (hws : ∀ w ∈ ws, w ∈ gap) (ht : t ∈ spaced ws) : t ∈ gap := by
  induction ws generalizing t with
  | nil =>
    rw [show t = [] from ht]
    exact List.not_mem_nil
  | cons w ws ih =>
    have hw : w ∈ gap := hws w List.mem_cons_self
    by_cases h : ws = []
    · subst h
      exact (show t = w from ht) ▸ hw
    · obtain ⟨between, hbetween, rest, hrest, rfl⟩ := (mem_spaced_cons_iff h).mp ht
      have hrest : rest ∈ gap := ih (fun v hv => hws v (List.mem_cons_of_mem _ hv)) hrest
      simp only [append_mem_gap_iff]
      exact ⟨hw, hbetween, hrest⟩

/-- A pattern of words on one line is found in a text where a line has the words in order. -/
theorem exists_spaced_infix_iff (hws : ∀ w ∈ ws, w ∈ gap) (s : List Char) :
    (∃ t ∈ spaced ws, t <:+: s) ↔ ∃ line ∈ s.splitOn '\n', InOrder ws line := by
  have hline : ∀ line ∈ s.splitOn '\n', (InOrder ws line ↔ ∃ t ∈ spaced ws, t <:+: line) :=
    fun line hmem => inOrder_iff_exists_spaced (not_mem_of_mem_splitOn s line hmem)
  constructor
  · rintro ⟨t, ht, hts⟩
    obtain ⟨line, hmem, htl⟩ := (infix_iff_splitOn (mem_gap_of_mem_spaced hws ht) s).mp hts
    exact ⟨line, hmem, (hline line hmem).mpr ⟨t, ht, htl⟩⟩
  · rintro ⟨line, hmem, h⟩
    obtain ⟨t, ht, htl⟩ := (hline line hmem).mp h
    exact ⟨t, ht, (infix_iff_splitOn (mem_gap_of_mem_spaced hws ht) s).mpr ⟨line, hmem, htl⟩⟩

/-- A pattern begins with its first word. -/
theorem prefix_of_mem_spaced (ht : t ∈ spaced (w :: ws)) : w <+: t := by
  by_cases hws : ws = []
  · subst hws
    obtain rfl : t = w := ht
    exact List.prefix_refl t
  · obtain ⟨between, -, rest, -, rfl⟩ := (mem_spaced_cons_iff hws).mp ht
    exact List.prefix_append w _

/-- A pattern ends with its last word. -/
theorem suffix_of_mem_spaced (ht : t ∈ spaced (ws ++ [w])) : w <:+ t := by
  induction ws generalizing t with
  | nil =>
    obtain rfl : t = w := ht
    exact List.suffix_refl t
  | cons v ws ih =>
    have hne : ws ++ [w] ≠ [] := List.concat_ne_nil _ _
    obtain ⟨between, -, rest, hrest, rfl⟩ := (mem_spaced_cons_iff hne).mp ht
    obtain ⟨front, rfl⟩ := ih hrest
    exact ⟨v ++ (between ++ front), by simp only [List.append_assoc]⟩

/-! ## The first line -/

theorem firstLine_mem_gap (s : List Char) : firstLine s ∈ gap := by
  intro h
  simpa using List.mem_takeWhile_imp h

theorem firstLine_append (hs : s ∈ gap) (t : List Char) :
    firstLine (s ++ t) = s ++ firstLine t := by
  refine List.takeWhile_append_of_pos fun c hc => ?_
  have hne : c ≠ '\n' := ne_of_mem_of_not_mem hc hs
  simpa using hne

/-- A pattern is found at the front of a text where its first word is there and the line has the
others in order behind it. -/
theorem exists_spaced_prefix_iff (hne : ws ≠ []) (hws : ∀ v ∈ ws, v ∈ gap) (s : List Char) :
    (∃ t ∈ spaced (w :: ws), t <+: s) ↔ ∃ r, after? w s = some r ∧ InOrder ws (firstLine r) := by
  simp only [after?_eq_some_iff, inOrder_iff_exists_spaced (firstLine_mem_gap _)]
  constructor
  · rintro ⟨_, ht, after, rfl⟩
    obtain ⟨between, hbetween, rest, hrest, rfl⟩ := (mem_spaced_cons_iff hne).mp ht
    have hgap : between ++ rest ∈ gap :=
      append_mem_gap_iff.mpr ⟨hbetween, mem_gap_of_mem_spaced hws hrest⟩
    -- no part of the pattern is behind a line feed, so the first line has all of it
    refine ⟨between ++ rest ++ after, by simp only [List.append_assoc], rest, hrest, ?_⟩
    rw [firstLine_append hgap]
    exact ⟨between, firstLine after, rfl⟩
  · rintro ⟨r, rfl, rest, hrest, between, after, hline⟩
    have hgap : between ++ rest ++ after ∈ gap := hline ▸ firstLine_mem_gap r
    simp only [append_mem_gap_iff] at hgap
    refine ⟨w ++ (between ++ rest),
      (mem_spaced_cons_iff hne).mpr ⟨between, hgap.1.1, rest, hrest, rfl⟩, ?_⟩
    have hfront : between ++ rest <+: firstLine r := ⟨after, hline⟩
    exact (List.prefix_append_right_inj w).mpr (hfront.trans (List.takeWhile_prefix _))

end GrowthScan.Text
