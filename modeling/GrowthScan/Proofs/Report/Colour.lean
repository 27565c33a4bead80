import GrowthScan.Proofs.Report.Table

/-!
# The painted table

Each row of the painted table shows the row of the plain one (`Report.shows_rows`): what is laid out
is measured and cut before anything is painted, and the classes, the remarks and the headings are
painted as a whole. So the table is left when the painted one is stripped
(`Report.stripped_pretty`).
-/

namespace GrowthScan

theorem Language.isPlain_displayName (l : Language) : Text.IsPlain l.displayName.toList := by
  cases l <;> decide

namespace Report

/-- Whether no text of the report has a character that starts a sequence. -/
structure IsPlain (r : Report) : Prop where
  path : Text.IsPlain r.path.toList
  explanation : Text.IsPlain r.analysis.explanation.toList
  operation : ∀ f ∈ r.analysis.findings, Text.IsPlain f.operation.toList
  remark : ∀ f ∈ r.analysis.findings, Text.IsPlain f.remark.toList
  violation : ∀ v ∈ r.violations, Text.IsPlain v.toList

/-! ## Rows -/

theorem isPlain_cutFront (most : Nat) {s : List Char} (hs : Text.IsPlain s) :
    Text.IsPlain (cutFront most s) := by
  rw [Text.isPlain_iff_forall_mem] at hs ⊢
  intro c hc
  rcases mem_cutFront hc with rfl | hc
  · decide
  · exact hs c hc

theorem isPlain_replicate {c : Char} (hc : Text.IsPlain [c]) (n : Nat) :
    Text.IsPlain (List.replicate n c) := by
  rw [Text.isPlain_iff_forall_mem]
  intro d hd
  rw [List.eq_of_mem_replicate hd]
  exact hc

theorem shows_paintedLabel (colored : Bool) (g : Growth) :
    Text.Shows (paintedLabel colored g) (paintedLabel false g) :=
  Text.shows_paint (isNumeric_growthStyle g) g.isPlain_label colored

/-- Only the class of a row is painted. -/
theorem shows_row (colored : Bool) (width : Nat) {filler : Char} (hfiller : Text.IsPlain [filler])
    {label : List Char} (hlabel : Text.IsPlain label) (g : Growth) :
    Text.Shows (row colored width filler label g) (row false width filler label g) := by
  have hcut := isPlain_cutFront (width - (Text.width g.label.toList + padding)) hlabel
  refine Text.Shows.append ?_ (shows_paintedLabel colored g)
  apply Text.shows_self
  rw [Text.isPlain_append_iff, Text.isPlain_append_iff]
  exact ⟨⟨hcut, isPlain_replicate hfiller _⟩, by decide⟩

theorem shows_findingRows (colored : Bool) (width : Nat) {f : Finding}
    (hoperation : Text.IsPlain f.operation.toList) (hremark : Text.IsPlain f.remark.toList) :
    List.Forall₂ Text.Shows (findingRows colored width f) (findingRows false width f) := by
  have hlabel : Text.IsPlain ("  - ".toList ++ f.operation.toList) :=
    Text.isPlain_append_iff.mpr ⟨by decide, hoperation⟩
  have hindented : Text.Shows ("      ".toList ++ Text.paint colored .dimmed f.remark.toList)
      ("      ".toList ++ f.remark.toList) :=
    (Text.shows_self (by decide)).append (Text.shows_paint (by decide) hremark colored)
  exact .cons (shows_row colored width (by decide) hlabel f.growth) (.cons hindented .nil)

/-! ## The table -/

theorem shows_rows {r : Report} (h : r.IsPlain) (colored : Bool) (width : Nat) :
    List.Forall₂ Text.Shows (r.rows colored width) (r.rows false width) := by
  have hspace : Text.Shows [' '] [' '] := Text.shows_self (by decide)
  have hindent : Text.Shows "  ".toList "  ".toList := Text.shows_self (by decide)
  have htitle : Text.IsPlain
      (r.path.toList ++ " (".toList ++ r.language.displayName.toList ++ [')']) := by
    rw [Text.isPlain_append_iff, Text.isPlain_append_iff, Text.isPlain_append_iff]
    exact ⟨⟨⟨h.path, by decide⟩, r.language.isPlain_displayName⟩, by decide⟩
  have hheading : ∀ heading ∈ ["time:", "space:"],
      Text.Shows (Text.paint colored .bold heading.toList) heading.toList := by
    intro heading hmem
    apply Text.shows_paint (by decide)
    revert heading
    decide
  refine List.rel_append (List.rel_append (.cons ?_ (.cons ?_ (.cons ?_ .nil))) ?_) ?_
  · exact shows_row colored width (by decide) htitle r.analysis.time
  · have htime := (hindent.append (hheading "time:" (by decide))).append hspace
    have htime := htime.append (shows_paintedLabel colored r.analysis.time)
    have hboth := ((htime.append hindent).append (hheading "space:" (by decide))).append hspace
    exact hboth.append (shows_paintedLabel colored r.analysis.space)
  · exact hindent.append (Text.shows_paint (by decide) h.explanation colored)
  · have hsame : List.Forall₂ (fun f f' => f ∈ r.analysis.findings ∧ f = f')
        r.analysis.findings r.analysis.findings := List.forall₂_same.mpr fun f hf => ⟨hf, rfl⟩
    refine List.rel_flatMap hsame fun f f' hf => ?_
    obtain ⟨hf, rfl⟩ := hf
    exact shows_findingRows colored width (h.operation f hf) (h.remark f hf)
  · rw [List.forall₂_map_left_iff, List.forall₂_map_right_iff, List.forall₂_same]
    intro v hv
    have hexceeded :
        Text.Shows (Text.paint colored .boldRed "exceeded:".toList) "exceeded:".toList :=
      Text.shows_paint (by decide) (by decide) colored
    exact ((hindent.append hexceeded).append hspace).append (Text.shows_self (h.violation v hv))

/-- Without its sequences the painted table is the plain one. -/
theorem stripped_pretty {r : Report} (h : r.IsPlain) (width : Nat) :
    Text.stripped (r.pretty true width) = r.pretty false width :=
  (Text.shows_joinLines (shows_rows h true width)).stripped_eq

/-- A cut path of wide characters, a remark with the end of a sequence in it, and a violation. -/
theorem stripped_pretty_cut :
    let f : Finding := ⟨"Nested Loops", .quadratic, "[31m"⟩
    let r : Report := new "漢字/漢字/漢字/漢字/漢字/漢字/漢字/漢字/漢字/漢字/漢字.py" .python
      ⟨.quadratic, .polynomial 3, "Quadratic time", [f]⟩ ⟨some .linear, none⟩
    r.IsPlain ∧ r.isViolation = true ∧
      Text.stripped (r.pretty true 40) = r.pretty false 40 ∧
      r.pretty true 40 ≠ r.pretty false 40 := by
  intro f r
  have hplain : r.IsPlain := by
    constructor <;> decide
  exact ⟨hplain, by decide, stripped_pretty hplain 40, by decide +kernel⟩

end Report

end GrowthScan
