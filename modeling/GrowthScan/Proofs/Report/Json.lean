import GrowthScan.Proofs.Analysis.RoundTrip
import GrowthScan.Report

/-!
# Reports as JSON

A JSON text of reports is read back as an array with one object for each report
(`Report.ofText_jsonText`). An object has violations just if its report does
(`Report.member?_violations_toJson`), and but for the member that names it, the language of a
report leaves no mark on it (`Report.without_language_toJson`).
-/

namespace GrowthScan

/-- The value without the members of this name, if it is an object. -/
def Json.without (name : String) : Json → Json
  | .object ms => .object (ms.filter fun m => m.1 ≠ name)
  | v => v

namespace Report

open Json (Blanks Plain)

theorem plain_toJson (r : Report) : Plain r.toJson := by
  refine .object (List.forall_mem_append.mpr ⟨List.forall_mem_cons.mpr ⟨.string _,
    List.forall_mem_cons.mpr ⟨.string _, List.forall_mem_singleton.mpr
      r.analysis.plain_toJson⟩⟩, ?_⟩)
  split
  · exact nofun
  · exact List.forall_mem_singleton.mpr (Json.plain_strings _)

/-- Blanks behind the text do no harm. -/
theorem ofText_jsonText (reports : List Report) {b : List Char} (hb : Blanks b) :
    Json.ofText (jsonText reports ++ b) = .ok (.array (reports.map toJson)) :=
  Json.ofText_of_spells
    (Json.spells_pretty (.array (List.forall_mem_map.mpr fun r _ => r.plain_toJson))) hb

theorem member?_violations_toJson (r : Report) :
    (r.toJson.member? "violations").isSome = r.isViolation := by
  obtain ⟨path, language, analysis, violations⟩ := r
  cases violations <;> rfl

/-- The reports that have violations are those whose objects do. -/
theorem map_toJson_filter (reports : List Report) :
    (reports.filter isViolation).map toJson =
      (reports.map toJson).filter fun v => (v.member? "violations").isSome := by
  rw [List.filter_map]
  exact congrArg (List.map toJson) (List.filter_congr fun r _ => r.member?_violations_toJson.symm)

/-- The report with another language. -/
def inLanguage (l : Language) (r : Report) : Report := { r with language := l }

@[simp] theorem isViolation_inLanguage (l : Language) (r : Report) :
    (r.inLanguage l).isViolation = r.isViolation := rfl

theorem without_language_toJson (l : Language) (r : Report) :
    (r.inLanguage l).toJson.without "language" = r.toJson.without "language" := by
  simp only [inLanguage, toJson, Json.without, List.cons_append, List.nil_append]
  rfl

end Report

end GrowthScan
