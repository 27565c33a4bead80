import GrowthScan.Proofs.Growth.Label
import GrowthScan.Proofs.Text.Style
import GrowthScan.Report

/-!
# The width of the table

A row has its label, filled up to the room that the class leaves, and the class in the columns
behind it (`Report.width_row_eq`). So it is as wide as the table, if only the label that
it shows keeps within its room. A long label is cut to as many characters as the room has columns,
which is enough just if its characters take one column each (`Report.width_row`).
-/

namespace GrowthScan

/-! ## Labels of classes -/

namespace Growth

/-- What holds of the characters of the ranked labels and of digits holds of all labels. -/
theorem all_label {p : Char → Bool} (hranked : ∀ g ∈ ranked, g.label.toList.all p = true)
    (hpower : "O(n^)".toList.all p = true) (hdigit : ∀ c, c.isDigit = true → p c = true)
    (g : Growth) : ∀ c ∈ g.label.toList, p c = true := by
  rcases mem_ranked_or g with hg | ⟨d, rfl⟩
  · exact List.all_eq_true.mp (hranked g hg)
  · intro c hc
    have hpower := List.all_eq_true.mp hpower
    rw [toList_label_polynomial, List.mem_append, List.mem_append] at hc
    rcases hc with hc | hc | hc
    · exact hpower c (List.mem_append_left [')'] hc)
    · exact hdigit c (Nat.isDigit_of_mem_toDigits (by decide) (by decide) hc)
    · exact hpower c (List.mem_append_right ['O', '(', 'n', '^'] hc)

theorem isPlain_label (g : Growth) : Text.IsPlain g.label.toList := by
  have hdigit : ∀ c : Char, c.isDigit = true → decide (Text.IsPlain [c]) = true := by
    intro c hc
    rw [decide_eq_true_eq, Text.isPlain_singleton_iff]
    constructor <;> rintro rfl <;> cases hc
  have h := all_label (by decide) (by decide) hdigit g
  exact Text.isPlain_iff_forall_mem.mpr fun c hc => of_decide_eq_true (h c hc)

theorem width_label_le_length (g : Growth) : Text.width g.label.toList ≤ g.label.toList.length := by
  have hdigit : ∀ c : Char, c.isDigit = true → decide (Text.width [c] ≤ 1) = true := by
    intro c hc
    have hascii := toNat_of_isDigit hc
    rw [decide_eq_true_eq, Text.width_singleton, Text.plainWidth_singleton_of_le (by omega)]
  have h := all_label (by decide +kernel) (by decide +kernel) hdigit g
  exact Text.width_le_length fun c hc => of_decide_eq_true (h c hc)

theorem length_label_le (g : Growth) : g.label.toList.length ≤ 15 := by
  rcases mem_ranked_or g with hg | ⟨d, rfl⟩
  · revert g
    decide
  · have hdegree : d.toNat < 10 ^ 10 := d.toNat_lt.trans (by decide)
    have hdigits := (Nat.length_toDigits_le_iff (b := 10) (by decide) (by decide)).mpr hdegree
    rw [toList_label_polynomial, List.length_append, List.length_append]
    show 4 + (_ + 1) ≤ 15
    omega

end Growth

/-! ## Rows -/

namespace Report

/-- What fills a row has no part in any sequence. -/
theorem isOutside_of_mem {c : Char} (hc : c ∈ ['-', '.', ' ']) : Text.IsOutside c := by
  simp only [List.mem_cons, List.not_mem_nil, or_false] at hc
  rcases hc with rfl | rfl | rfl <;> refine ⟨by decide, by decide, fun st => ?_⟩ <;>
    cases st <;> simp [Text.EscapeState.next?, Text.EscapeState.isLast]

theorem isSeparator_of_mem {c : Char} (hc : c ∈ ['-', '.', ' ']) : Text.IsSeparator c := by
  simp only [List.mem_cons, List.not_mem_nil, or_false] at hc
  rcases hc with rfl | rfl | rfl <;> decide +kernel

/-- The characters that fill a row take a column each. -/
theorem width_replicate_append {c : Char} (hc : c ∈ ['-', '.', ' ']) (n : Nat) (s : List Char) :
    Text.width (List.replicate n c ++ s) = n + Text.width s := by
  induction n with
  | zero => exact (Nat.zero_add _).symm
  | succ n ih =>
    have hwidth := Text.width_append_cons (isOutside_of_mem hc) (isSeparator_of_mem hc) []
      (List.replicate n c ++ s)
    have hnil : Text.width [] = 0 := rfl
    rw [List.nil_append] at hwidth
    rw [List.replicate_succ, List.cons_append, hwidth, ih, hnil]
    omega

theorem isNumeric_growthStyle (g : Growth) : (growthStyle g).IsNumeric := by
  unfold growthStyle
  split
  · split_ifs <;> decide
  · decide

theorem length_cutFront_le {most : Nat} (h : 3 ≤ most) (s : List Char) :
    (cutFront most s).length ≤ most := by
  unfold cutFront
  split
  · assumption
  · rw [List.length_append, List.length_drop]
    show 3 + _ ≤ most
    omega

theorem mem_cutFront {most : Nat} {s : List Char} {c : Char} (hc : c ∈ cutFront most s) :
    c = '.' ∨ c ∈ s := by
  unfold cutFront at hc
  split at hc
  · exact .inr hc
  · rcases List.mem_append.mp hc with hc | hc
    · exact .inl (List.eq_of_mem_replicate (n := 3) hc)
    · exact .inr (List.mem_of_mem_drop hc)

section

variable {width : Nat} {filler : Char} (hfiller : filler = '-' ∨ filler = '.')

include hfiller

/-- The columns of a row: the label in its room, or as far as it needs, and the class. -/
theorem width_row_eq (colored : Bool) (label : List Char) (g : Growth) :
    let room := width - (Text.width g.label.toList + padding)
    Text.width (row colored width filler label g) =
      max room (Text.width (cutFront room label)) + padding + Text.width g.label.toList := by
  intro room
  have hmem : filler ∈ ['-', '.', ' '] := by
    rcases hfiller with rfl | rfl <;> decide
  have hrow : row colored width filler label g = cutFront room label ++ filler ::
      (List.replicate (room - Text.width (cutFront room label)) filler ++
        (List.replicate 1 ' ' ++ paintedLabel colored g)) := by
    simp [row, room, List.replicate_succ]
  rw [hrow, Text.width_append_cons (isOutside_of_mem hmem) (isSeparator_of_mem hmem),
    width_replicate_append hmem, width_replicate_append (by decide), paintedLabel,
    Text.width_paint (isNumeric_growthStyle g) g.isPlain_label]
  show _ = _ + 2 + _
  omega

/-- A row is wider than the table by as much as the label that it shows is wider than its room. That
is nothing if no character of the label takes more than one column. -/
theorem width_row (hwidth : 40 ≤ width) (colored : Bool) (label : List Char) (g : Growth) :
    let room := width - (Text.width g.label.toList + padding)
    Text.width (row colored width filler label g) =
      width + (Text.width (cutFront room label) - room) ∧
    ((∀ c ∈ label, Text.width [c] ≤ 1) → Text.width (row colored width filler label g) = width) := by
  intro room
  have hrow : Text.width (row colored width filler label g) =
      max room (Text.width (cutFront room label)) + 2 + Text.width g.label.toList :=
    width_row_eq hfiller colored label g
  have hclass := g.width_label_le_length.trans g.length_label_le
  have hroom : room = width - (Text.width g.label.toList + 2) := rfl
  refine ⟨by omega, fun hcolumn => ?_⟩
  have hshown : ∀ c ∈ cutFront room label, Text.width [c] ≤ 1 := by
    intro c hc
    rcases mem_cutFront hc with rfl | hc
    · decide +kernel
    · exact hcolumn c hc
  have hle : Text.width (cutFront room label) ≤ room :=
    (Text.width_le_length hshown).trans (length_cutFront_le (by omega) label)
  omega

end

/-- The class with the longest label leaves less room than the label would take. -/
theorem width_row_longest :
    let label := "  - Nested Loops (4294967295 levels)".toList
    let g := Growth.polynomial 4294967295
    let room := 40 - (Text.width g.label.toList + padding)
    (40 ≤ 40 ∧ ('.' = '-' ∨ '.' = '.') ∧ ∀ c ∈ label, Text.width [c] ≤ 1) ∧
      room < label.length ∧
      Text.width (row true 40 '.' label g) = 40 + (Text.width (cutFront room label) - room) ∧
      Text.width (row true 40 '.' label g) = 40 := by
  intro label g room
  have hall : label.all (fun c => decide (Text.width [c] ≤ 1)) = true := by decide +kernel
  have hcolumn : ∀ c ∈ label, Text.width [c] ≤ 1 := fun c hc =>
    of_decide_eq_true (List.all_eq_true.mp hall c hc)
  have hrow := width_row (.inr rfl) (le_refl 40) true label g
  exact ⟨⟨le_refl 40, .inr rfl, hcolumn⟩, by decide +kernel, hrow.1, hrow.2 hcolumn⟩

/-- Characters of two columns are counted as one where the label is cut, and a label of a few of
them shifts the class to the right. -/
theorem not_forall_width_row :
    ¬∀ (colored : Bool) (width : Nat) (filler : Char) (label : List Char) (g : Growth),
      40 ≤ width → filler = '-' ∨ filler = '.' → Text.stripped label = label →
      Text.width (row colored width filler label g) = width := by
  intro h
  have hwidth := h false 40 '-' (List.replicate 30 '漢' ++ " (Java)".toList) .constant (le_refl 40)
    (.inl rfl) (by decide +kernel)
  have hwide : Text.width (row false 40 '-' (List.replicate 30 '漢' ++ " (Java)".toList) .constant) =
      64 := by decide +kernel
  rw [hwide] at hwidth
  cases hwidth

end Report

end GrowthScan
