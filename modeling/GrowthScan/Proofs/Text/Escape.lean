import GrowthScan.Proofs.Text.Lines
import GrowthScan.Proofs.Text.Width
import GrowthScan.Text.Escape
import Mathlib.Algebra.Order.BigOperators.Group.List
import Mathlib.Algebra.Order.Ring.Nat

/-!
# Texts with escape sequences

A character that no sequence goes on with cuts the text for the search of sequences
(`partsAfter_append_cons`). If it is a separator as well, the columns on its two sides
add up, whatever sequences there are (`width_append_cons`). Stripping only leaves
characters out (`stripped_sublist`), so that no text has more columns than characters
if each takes one at most (`width_le_length`).
-/

namespace GrowthScan.Text

variable {s t u : List Char} {c : Char} {ps qs : List (List Char)}

/-! ## Parts -/

/-- Joins the last of some parts and the first of others. -/
def glue : List (List Char) → List (List Char) → List (List Char)
  | [], qs => qs
  | [p], qs => p.foldr consToFirst qs
  | p :: q :: ps, qs => p :: glue (q :: ps) qs

theorem glue_cons (hps : ps ≠ []) (p : List Char) : glue (p :: ps) qs = p :: glue ps qs := by
  obtain ⟨q, ps, rfl⟩ := List.exists_cons_of_ne_nil hps
  rfl

theorem consToFirst_ne_nil (c : Char) (ps : List (List Char)) : consToFirst c ps ≠ [] := by
  cases ps <;> exact List.cons_ne_nil _ _

theorem glue_consToFirst (hps : ps ≠ []) :
    glue (consToFirst c ps) qs = consToFirst c (glue ps qs) := by
  obtain ⟨p, ps, rfl⟩ := List.exists_cons_of_ne_nil hps
  cases ps with
  | nil => rfl
  | cons q ps => rfl

theorem partsAfter_ne_nil (skip : Nat) (s : List Char) : partsAfter skip s ≠ [] := by
  induction s generalizing skip with
  | nil => cases skip <;> exact List.cons_ne_nil _ _
  | cons c s ih =>
    cases skip with
    | zero =>
      rw [partsAfter]
      split
      · exact List.cons_ne_nil _ _
      · exact consToFirst_ne_nil c _
    | succ skip => exact ih skip

theorem foldr_consToFirst (s p : List Char) (ps : List (List Char)) :
    s.foldr consToFirst (p :: ps) = (s ++ p) :: ps := by
  induction s with
  | nil => rfl
  | cons c s ih => rw [List.foldr_cons, ih]; rfl

/-! ## Where sequences end -/

/-- Whether the character has no part in any sequence. -/
def IsOutside (c : Char) : Prop :=
  c ≠ '\x1b' ∧ c ≠ '\u009b' ∧ ∀ st : EscapeState, st.next? c = none

theorem afterEscape?_of_ne (h : c ≠ '\x1b') (h' : c ≠ '\u009b') (s : List Char) :
    afterEscape? (c :: s) = none :=
  if_neg (by simp [h, h'])

theorem afterSequence?_append_cons (hc : ∀ st : EscapeState, st.next? c = none)
    (st : EscapeState) (found : Option (List Char)) (s t : List Char) :
    afterSequence? st (found.map (· ++ c :: t)) (s ++ c :: t) =
      (afterSequence? st found s).map (· ++ c :: t) := by
  induction s generalizing st found with
  | nil => simp only [List.nil_append, afterSequence?, hc]
  | cons d s ih =>
    rw [List.cons_append, afterSequence?, afterSequence?]
    split
    · rfl
    · rename_i next _
      rw [← ih]
      congr 1
      split <;> rfl

/-- No sequence goes across the character. -/
theorem afterEscape?_append_cons (hc : IsOutside c) (s t : List Char) :
    afterEscape? (s ++ c :: t) = (afterEscape? s).map (· ++ c :: t) := by
  cases s with
  | nil => exact afterEscape?_of_ne hc.1 hc.2.1 t
  | cons d s =>
    rw [List.cons_append, afterEscape?, afterEscape?]
    split
    · exact afterSequence?_append_cons hc.2.2 .opened none s t
    · rfl

/-- The parts on the two sides of the character, of which two are one. -/
theorem partsAfter_append_cons (hc : IsOutside c) {skip : Nat} (hskip : skip ≤ s.length)
    (t : List Char) :
    partsAfter skip (s ++ c :: t) = glue (partsAfter skip s) (partsAfter 0 (c :: t)) := by
  induction s generalizing skip with
  | nil =>
    rw [Nat.le_zero.mp hskip]
    rfl
  | cons d s ih =>
    cases skip with
    | succ skip => exact ih (Nat.le_of_succ_le_succ hskip)
    | zero =>
      have hcut := afterEscape?_append_cons hc (d :: s) t
      rw [List.cons_append] at hcut ⊢
      rw [partsAfter, partsAfter, hcut]
      cases hrest : afterEscape? (d :: s) with
      | none =>
        rw [glue_consToFirst (partsAfter_ne_nil _ _), ← ih (Nat.zero_le _)]
        rfl
      | some rest =>
        rw [glue_cons (partsAfter_ne_nil _ _), ← ih (Nat.sub_le _ _)]
        simp only [Option.map_some, List.length_append, Nat.add_sub_add_right]

/-! ## Columns -/

theorem sum_plainWidth_glue (hps : ps ≠ []) (hc : IsSeparator c) (q : List Char) :
    ((glue ps ((c :: q) :: qs)).map plainWidth).sum =
      (ps.map plainWidth).sum + 1 + ((q :: qs).map plainWidth).sum := by
  induction ps using joinLines_induction with
  | nil => exact absurd rfl hps
  | singleton p =>
    rw [glue, foldr_consToFirst]
    simp only [List.map_cons, List.sum_cons, List.map_nil, List.sum_nil,
      plainWidth_append_cons hc]
    omega
  | cons p ps hps' ih =>
    rw [glue_cons hps']
    simp only [List.map_cons, List.sum_cons, ih hps']
    omega

/-- The columns on the two sides of a separator add up, whatever sequences there are. -/
theorem width_append_cons (hout : IsOutside c) (hc : IsSeparator c) (s t : List Char) :
    width (s ++ c :: t) = width s + 1 + width t := by
  have hparts : partsAfter 0 (c :: t) = consToFirst c (partsAfter 0 t) := by
    rw [partsAfter, afterEscape?_of_ne hout.1 hout.2.1]
  obtain ⟨q, qs, hq⟩ := List.exists_cons_of_ne_nil (partsAfter_ne_nil 0 t)
  show ((partsAfter 0 (s ++ c :: t)).map plainWidth).sum = ((partsAfter 0 s).map plainWidth).sum +
    1 + ((partsAfter 0 t).map plainWidth).sum
  rw [partsAfter_append_cons hout (Nat.zero_le _), hparts, hq]
  exact sum_plainWidth_glue (partsAfter_ne_nil 0 s) hc q

theorem flatten_consToFirst (c : Char) (ps : List (List Char)) :
    (consToFirst c ps).flatten = c :: ps.flatten := by
  cases ps <;> rfl

theorem flatten_partsAfter_sublist (skip : Nat) (s : List Char) :
    (partsAfter skip s).flatten.Sublist s := by
  induction s generalizing skip with
  | nil => cases skip <;> exact List.Sublist.slnil
  | cons c s ih =>
    cases skip with
    | succ skip => exact (ih skip).cons c
    | zero =>
      rw [partsAfter]
      split
      · exact (ih _).cons c
      · rw [flatten_consToFirst]
        exact (ih 0).cons_cons c

/-- Stripping only leaves characters out. -/
theorem stripped_sublist (s : List Char) : (stripped s).Sublist s := flatten_partsAfter_sublist 0 s

theorem width_singleton (c : Char) : width [c] = plainWidth [c] := by
  have hnone : afterEscape? [c] = none := by
    rw [afterEscape?]
    split <;> rfl
  show ((partsAfter 0 [c]).map plainWidth).sum = _
  rw [partsAfter, hnone]
  rfl

/-- Characters of one column at most take one column each at most, also between sequences. -/
theorem width_le_length (h : ∀ c ∈ s, width [c] ≤ 1) : width s ≤ s.length := by
  have hpart : ∀ p ∈ plainParts s, plainWidth p ≤ p.length := by
    intro p hp
    refine plainWidth_le_length fun c hc => ?_
    rw [← width_singleton]
    exact h c ((stripped_sublist s).subset (List.mem_flatten_of_mem hp hc))
  calc width s = ((plainParts s).map plainWidth).sum := rfl
    _ ≤ ((plainParts s).map List.length).sum := List.sum_le_sum hpart
    _ = (stripped s).length := List.length_flatten.symm
    _ ≤ s.length := (stripped_sublist s).length_le

end GrowthScan.Text
