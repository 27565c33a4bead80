import GrowthScan.Proofs.Json.Decoding
import GrowthScan.Proofs.Report.Json

/-!
# Reports are read back

The JSON text of reports tells all that they hold (`Report.describes_jsonText`). It is an array
with one object for each report in their order, and `Report.Describes` says what stands in an
object: the path, the language, the analysis in a form that is read back, and the violations if
there are any. Different reports have different objects (`Report.toJson_injective`), and so
different texts.
-/

namespace GrowthScan

open Json.Decoder (Fills bind_of_ok record_of_fills)

/-! ## Analyses from trees -/

theorem Growth.decode_toJson {g : Growth} (h : g.IsReadable) :
    ofSource (m := Json.Decoder) g.toJson = .ok g := by
  have hlabel : Json.Source.string (m := Json.Decoder) g.toJson = .ok g.label := rfl
  rw [ofSource, bind_of_ok hlabel, ofLabel_eq_ok_iff.mpr (ofLabel?_label_iff.mpr h)]
  rfl

theorem Finding.decode_toJson {f : Finding} (h : f.growth.IsReadable) :
    ofSource (m := Json.Decoder) f.toJson = .ok f := by
  have hfills : Fills (layout (m := Json.Decoder)).fields
      [("complexity", f.growth.toJson), ("description", .string f.remark),
        ("operation", .string f.operation)]
      ⟨none, none, none⟩ ⟨some f.operation, some f.growth, some f.remark⟩ := by
    refine .cons rfl rfl (bind_of_ok (Growth.decode_toJson h)) ?_
    exact .cons rfl rfl rfl (.cons rfl rfl rfl (.nil _))
  exact record_of_fills (by simp [List.mergeSort]) hfills rfl

namespace Analysis

theorem decode_toJson {a : Analysis} (h : a.IsReadable) :
    ofSource (m := Json.Decoder) a.toJson = .ok a := by
  have hfindings : Json.Source.list (m := Json.Decoder) Finding.ofSource
      (.array (a.findings.map Finding.toJson)) = .ok a.findings :=
    Json.Decoder.list_map fun f hf => Finding.decode_toJson (h.findings f hf)
  have hfills : Fills (layout (m := Json.Decoder)).fields
      [("breakdown", .array (a.findings.map Finding.toJson)),
        ("explanation", .string a.explanation), ("spaceComplexity", a.space.toJson),
        ("timeComplexity", a.time.toJson)]
      ⟨none, none, none, none⟩
      ⟨some a.time, some a.space, some a.explanation, some a.findings⟩ := by
    refine .cons rfl rfl (bind_of_ok hfindings) (.cons rfl rfl rfl ?_)
    refine .cons rfl rfl (bind_of_ok (Growth.decode_toJson h.space)) ?_
    exact .cons rfl rfl (bind_of_ok (Growth.decode_toJson h.time)) (.nil _)
  exact record_of_fills (by simp [List.mergeSort]) hfills rfl

theorem ofJson_toJson {a : Analysis} (h : a.IsReadable) : ofJson a.toJson = .ok a := by
  rw [ofJson, Json.decode, decode_toJson h]
  rfl

end Analysis

/-! ## Different values have different trees -/

theorem Growth.toJson_injective : Function.Injective Growth.toJson := fun _ _ h =>
  label_injective (Json.string.inj h)

theorem Finding.toJson_injective : Function.Injective Finding.toJson := by
  rintro ⟨operation, growth, remark⟩ ⟨operation', growth', remark'⟩ h
  simp only [toJson, Json.object.injEq, List.cons.injEq, Prod.mk.injEq, Json.string.injEq,
    true_and, and_true, Growth.toJson_injective.eq_iff] at h
  obtain ⟨rfl, rfl, rfl⟩ := h
  rfl

theorem Analysis.toJson_injective : Function.Injective Analysis.toJson := by
  rintro ⟨time, space, explanation, findings⟩ ⟨time', space', explanation', findings'⟩ h
  simp only [toJson, Json.object.injEq, Json.array.injEq, List.cons.injEq, Prod.mk.injEq,
    Json.string.injEq, true_and, and_true, Growth.toJson_injective.eq_iff,
    (List.map_injective_iff.mpr Finding.toJson_injective).eq_iff] at h
  obtain ⟨rfl, rfl, rfl, rfl⟩ := h
  rfl

theorem Language.ofId?_id (l : Language) : ofId? l.id = some l := by cases l <;> decide

theorem Language.id_injective : Function.Injective Language.id := by
  intro l l' h
  have hid := congrArg ofId? h
  rwa [ofId?_id, ofId?_id, Option.some.injEq] at hid

theorem Json.strings_injective : Function.Injective Json.strings := fun _ _ h =>
  List.map_injective_iff.mpr (fun _ _ => Json.string.inj) (Json.array.inj h)

namespace Report

/-- What an object tells of a report. -/
structure Describes (r : Report) (v : Json) : Prop where
  /-- Each member is named once. -/
  names : ∃ ms, v = .object ms ∧ ms.map (·.1) =
    ["path", "language", "result"] ++ if r.violations = [] then [] else ["violations"]
  path : v.member? "path" = some (.string r.path)
  language : v.member? "language" = some (.string r.language.id)
  /-- The analysis is read back if its classes can be, from the tree and from a text. -/
  result : ∃ w, v.member? "result" = some w ∧ (r.analysis.IsReadable →
    Analysis.ofJson w = .ok r.analysis ∧ Analysis.ofText (Json.compact w) = .ok r.analysis)
  violations : v.member? "violations" =
    if r.violations = [] then none else some (.strings r.violations)

theorem describes_toJson (r : Report) : Describes r r.toJson := by
  obtain ⟨path, language, analysis, violations⟩ := r
  have hresult : analysis.IsReadable → Analysis.ofJson analysis.toJson = .ok analysis ∧
      Analysis.ofText (Json.compact analysis.toJson) = .ok analysis := fun h =>
    ⟨Analysis.ofJson_toJson h, Analysis.ofText_compact h⟩
  cases violations with
  | nil => exact ⟨⟨_, rfl, rfl⟩, rfl, rfl, ⟨_, rfl, hresult⟩, rfl⟩
  | cons s ss => exact ⟨⟨_, rfl, rfl⟩, rfl, rfl, ⟨_, rfl, hresult⟩, rfl⟩

theorem toJson_injective : Function.Injective toJson := by
  rintro ⟨path, language, analysis, violations⟩ ⟨path', language', analysis', violations'⟩ h
  obtain ⟨hfront, hback⟩ := List.append_inj (Json.object.inj h) rfl
  simp only [List.cons.injEq, Prod.mk.injEq, Json.string.injEq, true_and, and_true,
    Language.id_injective.eq_iff, Analysis.toJson_injective.eq_iff] at hfront
  obtain ⟨rfl, rfl, rfl⟩ := hfront
  have hviolations : violations = violations' := by
    cases violations with
    | nil =>
      cases violations' with
      | nil => rfl
      | cons _ _ => cases hback
    | cons _ _ =>
      cases violations' with
      | nil => cases hback
      | cons _ _ => exact Json.strings_injective (Prod.mk.inj (List.cons.inj hback).1).2
  rw [hviolations]

theorem ofText_jsonText_alone (reports : List Report) :
    Json.ofText (jsonText reports) = .ok (.array (reports.map toJson)) := by
  have hread := ofText_jsonText reports Json.blanks_nil
  rwa [List.append_nil] at hread

/-- The JSON text of reports is an array whose objects describe them one by one, and different
reports have different texts. -/
theorem describes_jsonText :
    (∀ reports, ∃ vs, Json.ofText (jsonText reports) = .ok (.array vs) ∧
      List.Forall₂ Describes reports vs) ∧
    Function.Injective jsonText := by
  refine ⟨fun reports => ⟨_, ofText_jsonText_alone reports, ?_⟩, fun reports reports' h => ?_⟩
  · rw [List.forall₂_map_right_iff, List.forall₂_same]
    exact fun r _ => r.describes_toJson
  · have hread := ofText_jsonText_alone reports
    rw [h, ofText_jsonText_alone reports'] at hread
    have htrees : reports'.map toJson = reports.map toJson :=
      Json.array.inj (Except.ok.inj hread)
    exact (List.map_injective_iff.mpr toJson_injective htrees).symm

/-- Signs that are escaped, a class that is written by its degree, and a report without
violations. -/
theorem describes_jsonText_escapes :
    let r : Report := ⟨"a\t\"b\\.py", .python,
      ⟨.polynomial 4, .linear, "\n", [⟨"\x00", .polynomial 4294967295, "é"⟩]⟩, ["time", "\x1f"]⟩
    let r' : Report := ⟨"", .c, ⟨.constant, .constant, "]", []⟩, []⟩
    ∃ v v' w, Json.ofText (jsonText [r, r']) = .ok (.array [v, v']) ∧
      v.member? "path" = some (.string "a\t\"b\\.py") ∧ v.member? "result" = some w ∧
      Analysis.ofJson w = .ok r.analysis ∧
      v.member? "violations" = some (.strings ["time", "\x1f"]) ∧ v'.member? "violations" = none ∧
      jsonText [r, r'] ≠ jsonText [r', r] := by
  intro r r'
  have hreadable : r.analysis.IsReadable :=
    ⟨.inr ⟨4, by decide, rfl⟩, .inl rfl,
      List.forall_mem_singleton.mpr (.inr ⟨4294967295, by decide, rfl⟩)⟩
  obtain ⟨vs, hread, hdescribes⟩ := describes_jsonText.1 [r, r']
  obtain ⟨v, _, hv, hrest, rfl⟩ := List.forall₂_cons_left_iff.mp hdescribes
  obtain ⟨v', _, hv', hrest', rfl⟩ := List.forall₂_cons_left_iff.mp hrest
  cases hrest'
  obtain ⟨w, hw, hresult⟩ := hv.result
  refine ⟨v, v', w, hread, hv.path, hw, (hresult hreadable).1, hv.violations, hv'.violations, ?_⟩
  intro h
  have hpath := congrArg (List.map path) (describes_jsonText.2 h)
  exact absurd hpath (by decide)

end Report

end GrowthScan
