import GrowthScan.Algorithm
import GrowthScan.Proofs.Text.Words

/-!
# Normalized text

What is left of a text that is normalized are its words, each in lower case
(`words_normalize`), with one space between neighbours. So only the words of a text matter
(`normalize_words`): neither the blanks between them and around them, nor
whether the text was normalized before.
-/

namespace GrowthScan

open Text (IsOneWord)

theorem normalize_eq (code : List Char) :
    normalize code = Text.unwords ((Text.words code).map Text.lower) := by
  rw [normalize, Text.words_lower]

theorem isOneWord_of_mem_map_lower (code : List Char) :
    ∀ w ∈ (Text.words code).map Text.lower, IsOneWord w :=
  List.forall_mem_map.mpr fun w hw => (Text.isOneWord_of_mem_words w hw).lower

/-- The words of a normalized text are those of the text, in lower case. -/
theorem words_normalize (code : List Char) :
    Text.words (normalize code) = (Text.words code).map Text.lower := by
  rw [normalize_eq, Text.words_unwords (isOneWord_of_mem_map_lower code)]

/-- Normalization depends only on the words. It joins the words with single spaces, each
lower-cased on its own. It does not see blanks around the text; of two texts with a blank between
them it joins what it makes of each, as far as there is anything; and it leaves normalized texts
as they are. -/
theorem normalize_words :
    (∀ code, normalize code = Text.unwords ((Text.words code).map Text.lower)) ∧
    (∀ code, normalize (Text.trim code) = normalize code) ∧
    (∀ a b c, Text.isBlank c = true →
      normalize (a ++ c :: b) =
        if normalize a = [] then normalize b
        else if normalize b = [] then normalize a
        else normalize a ++ ' ' :: normalize b) ∧
    ∀ code, normalize (normalize code) = normalize code := by
  refine ⟨normalize_eq, fun code => ?_, fun a b c hc => ?_, fun code => ?_⟩
  · rw [normalize_eq, normalize_eq, Text.words_trim]
  · rw [normalize_eq, Text.words_append_cons hc, List.map_append,
      Text.unwords_append (isOneWord_of_mem_map_lower a) (isOneWord_of_mem_map_lower b),
      ← normalize_eq, ← normalize_eq]
  · have hlower : Text.lower ∘ Text.lower = Text.lower := funext Text.lower_lower
    rw [normalize_eq, words_normalize, List.map_map, hlower, ← normalize_eq]

/-- A sigma at the end of a word is final, whatever stands in the next one. -/
theorem normalize_words_sigma :
    Text.isBlank '\u2003' = true ∧
      normalize ("ΟΔΟΣ".toList ++ '\u2003' :: "\tΣΑΣ İ ".toList) =
        normalize "ΟΔΟΣ".toList ++ ' ' :: normalize "\tΣΑΣ İ ".toList ∧
      normalize "ΟΔΟΣ".toList = "οδος".toList := by
  have hblank : Text.isBlank '\u2003' = true := by decide
  refine ⟨hblank, ?_, by decide +kernel⟩
  rw [normalize_words.2.2.1 _ _ _ hblank, if_neg (by decide +kernel), if_neg (by decide +kernel)]

end GrowthScan
