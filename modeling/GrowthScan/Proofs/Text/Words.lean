import GrowthScan.Proofs.Text.Lower
import GrowthScan.Proofs.Text.Occurrences

/-!
# The words of a text

The words of a text are not empty and have no blanks (`isOneWord_of_mem_words`). Words that are
joined with spaces are taken apart again (`words_unwords`). Lower-casing a text
lower-cases each of its words on its own, whatever the others are (`words_lower`).
-/

namespace GrowthScan.Text

/-- Whether the text is a word as a whole. -/
structure IsOneWord (w : List Char) : Prop where
  ne_nil : w ≠ []
  no_blank : ∀ c ∈ w, isBlank c = false

/-! ## Taking texts apart -/

theorem words_of_no_blank {w : List Char} (h : ∀ c ∈ w, isBlank c = false) :
    words w = if w = [] then [] else [w] := by
  rw [words, List.splitOnP_eq_singleton h]
  cases w <;> rfl

theorem IsOneWord.words_eq {w : List Char} (h : IsOneWord w) : words w = [w] := by
  rw [words_of_no_blank h.no_blank, if_neg h.ne_nil]

theorem isOneWord_of_mem_words {s : List Char} : ∀ w ∈ words s, IsOneWord w := by
  induction s using break_induction isBlank with
  | without w hw =>
    rw [words_of_no_blank hw]
    split
    · exact fun _ h => absurd h List.not_mem_nil
    · rename_i hne
      exact List.forall_mem_singleton.mpr ⟨hne, hw⟩
  | append w c s hw hc ih =>
    rw [words_append_cons hc, words_of_no_blank hw]
    split
    · exact ih
    · rename_i hne
      exact List.forall_mem_cons.mpr ⟨⟨hne, hw⟩, ih⟩

theorem words_trim (s : List Char) : words (trim s) = words s := by
  refine apply_trim (fun c s hc => ?_) (fun c s hc => ?_) s
  · rw [← List.nil_append (c :: s), words_append_cons hc, words_nil, List.nil_append]
  · rw [words_append_cons hc, words_nil, List.append_nil]

/-! ## Joining words -/

theorem unwords_singleton (w : List Char) : unwords [w] = w := List.intercalate_singleton

theorem unwords_cons {ws : List (List Char)} (w : List Char) (h : ws ≠ []) :
    unwords (w :: ws) = w ++ ' ' :: unwords ws := by
  rw [unwords, List.intercalate_cons_of_ne_nil h, List.append_assoc]
  rfl

/-- Words that are joined are taken apart again. -/
theorem words_unwords {ws : List (List Char)} (h : ∀ w ∈ ws, IsOneWord w) :
    words (unwords ws) = ws := by
  induction ws with
  | nil => exact words_nil
  | cons w ws ih =>
    obtain ⟨hw, hws⟩ := List.forall_mem_cons.mp h
    by_cases hnil : ws = []
    · rw [hnil, unwords_singleton, hw.words_eq]
    · rw [unwords_cons w hnil, words_append_cons (by decide), hw.words_eq, ih hws]
      rfl

theorem unwords_eq_nil_iff {ws : List (List Char)} (h : ∀ w ∈ ws, IsOneWord w) :
    unwords ws = [] ↔ ws = [] := by
  constructor
  · intro hnil
    rw [← words_unwords h, hnil, words_nil]
  · rintro rfl
    rfl

/-- Texts made of words are joined with a space, if both have any. -/
theorem unwords_append {vs ws : List (List Char)} (hvs : ∀ w ∈ vs, IsOneWord w)
    (hws : ∀ w ∈ ws, IsOneWord w) :
    unwords (vs ++ ws) =
      if unwords vs = [] then unwords ws
      else if unwords ws = [] then unwords vs else unwords vs ++ ' ' :: unwords ws := by
  simp only [unwords_eq_nil_iff hvs, unwords_eq_nil_iff hws]
  split
  · rename_i hnil
    rw [hnil, List.nil_append]
  · split
    · rename_i hnil
      rw [hnil, List.append_nil]
    · rename_i hv hw
      -- The step goes to the rest of `vs`, of which it is not needed that it is made of words.
      clear hvs
      induction vs with
      | nil => exact absurd rfl hv
      | cons v vs ih =>
        by_cases hnil : vs = []
        · rw [hnil, List.singleton_append, unwords_cons v hw, unwords_singleton]
        · rw [List.cons_append, unwords_cons v (by simp [hnil]), ih hnil, unwords_cons v hnil,
            List.append_assoc, List.cons_append]

/-! ## Lower-casing words -/

theorem IsOneWord.lower {w : List Char} (h : IsOneWord w) : IsOneWord (lower w) :=
  ⟨lower_ne_nil h.ne_nil, fun _ => not_isBlank_of_mem_lower h.no_blank⟩

/-- Each word is lower-cased on its own: the form of a sigma does not depend on other words. -/
theorem words_lower (s : List Char) : words (lower s) = (words s).map lower := by
  have hword {w : List Char} (hw : ∀ c ∈ w, isBlank c = false) :
      words (lower w) = (words w).map lower := by
    by_cases hnil : w = []
    · rw [hnil]
      exact words_nil
    · have hone : IsOneWord w := ⟨hnil, hw⟩
      rw [hone.lower.words_eq, hone.words_eq, List.map_singleton]
  induction s using break_induction isBlank with
  | without w hw => exact hword hw
  | append w c s hw hc ih =>
    rw [lower_append_cons (isNeutral_of_isBlank hc), words_append_cons hc, words_append_cons hc,
      hword hw, ih, List.map_append]

end GrowthScan.Text
