import GrowthScan.Analysis.Json
import GrowthScan.Proofs.Analysis.Findings
import GrowthScan.Proofs.Growth.Label
import GrowthScan.Proofs.Json.Typed
import GrowthScan.Proofs.Text.Lines

/-!
# Analyses survive JSON

An analysis whose classes are named by their labels (`Analysis.IsReadable`) is read back from its
JSON as it was, whatever its texts hold. So is each analysis of a text with fewer than 2^32 lines,
since the only class that a label may fail to name is a polynomial whose degree lost its high
bits; and so is all that was read from JSON, since reading gives nothing but classes that a label
named.
-/

namespace GrowthScan

open Json (Plain)
open Json.Reader (Fills Gives Takes takes_string)

/-! ## Growth classes -/

/-- A class that its label names. -/
def Growth.IsReadable (g : Growth) : Prop := g.isRanked = true ∨ ∃ d, 3 < d ∧ g = .polynomial d

theorem Growth.takes_ofSource {g : Growth} (h : g.IsReadable) : Takes ofSource g.toJson g :=
  (takes_string g.label).bind fun s => by
    rw [ofLabel_eq_ok_iff.mpr (ofLabel?_label_iff.mpr h)]
    rfl

theorem Growth.gives_ofSource : Gives Growth.ofSource Growth.IsReadable := by
  refine .andThen fun label => ?_
  split
  · rename_i g hg
    exact .pure (ofLabel?_label_iff.mp (ofLabel?_label_of_ofLabel? (ofLabel_eq_ok_iff.mp hg)))
  · exact .refuse _

/-! ## Findings -/

namespace Finding

theorem takes_ofSource {f : Finding} (h : f.growth.IsReadable) : Takes ofSource f.toJson f := by
  have hfills : Fills (layout (m := Json.Reader)).fields
      [("operation", .string f.operation), ("complexity", f.growth.toJson),
        ("description", .string f.remark)]
      ⟨none, none, none⟩ ⟨some f.operation, some f.growth, some f.remark⟩ := by
    refine .cons rfl rfl ((takes_string _).bind fun _ => rfl) ?_
    refine .cons rfl rfl ((Growth.takes_ofSource h).bind fun _ => rfl) ?_
    exact .cons rfl rfl ((takes_string _).bind fun _ => rfl) (.nil _)
  exact .record hfills rfl

theorem gives_ofSource : Gives ofSource fun f => f.growth.IsReadable := by
  -- the class is readable as soon as it was met
  refine .record (r := layout) (K := fun p => ∀ g ∈ p.growth?, g.IsReadable) nofun ?_ ?_
  · refine List.forall_mem_cons.mpr ⟨fun p hp => ?operation, List.forall_mem_cons.mpr
      ⟨fun p hp => ?complexity, List.forall_mem_singleton.mpr fun p hp => ?description⟩⟩
    case operation => exact .andThen fun _ => .pure hp
    case complexity =>
      exact Growth.gives_ofSource.bind fun g hg => .pure fun _ h => by cases h; exact hg
    case description => exact .andThen fun _ => .pure hp
  · intro p f hp hfinish
    simp only [layout] at hfinish
    split at hfinish <;> cases hfinish
    exact hp _ rfl

theorem plain_toJson (f : Finding) : Plain f.toJson :=
  .object (List.forall_mem_cons.mpr ⟨.string _, List.forall_mem_cons.mpr
    ⟨.string _, List.forall_mem_singleton.mpr (.string _)⟩⟩)

end Finding

/-! ## Analyses -/

namespace Analysis

/-- All classes of the analysis are named by their labels. -/
structure IsReadable (a : Analysis) : Prop where
  time : a.time.IsReadable
  space : a.space.IsReadable
  findings : ∀ f ∈ a.findings, f.growth.IsReadable

theorem takes_ofSource {a : Analysis} (h : a.IsReadable) : Takes ofSource a.toJson a := by
  have hfindings : List.Forall₂ (Takes Finding.ofSource) (a.findings.map Finding.toJson)
      a.findings := by
    rw [List.forall₂_map_left_iff, List.forall₂_same]
    exact fun f hf => Finding.takes_ofSource (h.findings f hf)
  have hfills : Fills (layout (m := Json.Reader)).fields
      [("timeComplexity", a.time.toJson), ("spaceComplexity", a.space.toJson),
        ("explanation", .string a.explanation),
        ("breakdown", .array (a.findings.map Finding.toJson))]
      ⟨none, none, none, none⟩
      ⟨some a.time, some a.space, some a.explanation, some a.findings⟩ := by
    refine .cons rfl rfl ((Growth.takes_ofSource h.time).bind fun _ => rfl) ?_
    refine .cons rfl rfl ((Growth.takes_ofSource h.space).bind fun _ => rfl) ?_
    refine .cons rfl rfl ((takes_string _).bind fun _ => rfl) ?_
    exact .cons rfl rfl ((Takes.list hfindings).bind fun _ => rfl) (.nil _)
  exact .record hfills rfl

theorem gives_ofSource : Gives ofSource IsReadable := by
  refine .record (r := layout) (K := fun p => (∀ g ∈ p.time?, g.IsReadable) ∧
    (∀ g ∈ p.space?, g.IsReadable) ∧ ∀ fs ∈ p.findings?, ∀ f ∈ fs, f.growth.IsReadable)
    ⟨nofun, nofun, nofun⟩ ?_ ?_
  · refine List.forall_mem_cons.mpr ⟨?time, List.forall_mem_cons.mpr ⟨?space,
      List.forall_mem_cons.mpr ⟨?explanation, List.forall_mem_singleton.mpr ?breakdown⟩⟩⟩ <;>
      rintro p ⟨htime, hspace, hfindings⟩
    case time =>
      exact Growth.gives_ofSource.bind fun g hg =>
        .pure ⟨fun _ h => by cases h; exact hg, hspace, hfindings⟩
    case space =>
      exact Growth.gives_ofSource.bind fun g hg =>
        .pure ⟨htime, fun _ h => by cases h; exact hg, hfindings⟩
    case explanation => exact .andThen fun _ => .pure ⟨htime, hspace, hfindings⟩
    case breakdown =>
      exact (Gives.list Finding.gives_ofSource).bind fun fs hfs =>
        .pure ⟨htime, hspace, fun _ h => by cases h; exact hfs⟩
  · rintro p a ⟨htime, hspace, hfindings⟩ hfinish
    simp only [layout] at hfinish
    split at hfinish <;> cases hfinish
    exact ⟨htime _ rfl, hspace _ rfl, hfindings _ rfl⟩

theorem plain_toJson (a : Analysis) : Plain a.toJson :=
  .object (List.forall_mem_cons.mpr ⟨.string _, List.forall_mem_cons.mpr ⟨.string _,
    List.forall_mem_cons.mpr ⟨.string _, List.forall_mem_singleton.mpr
      (.array (List.forall_mem_map.mpr fun f _ => f.plain_toJson))⟩⟩⟩)

theorem ofText_compact {a : Analysis} (h : a.IsReadable) :
    ofText (Json.compact a.toJson) = .ok a := by
  rw [ofText, Json.read_of_takes (takes_ofSource h) (Json.spells_compact a.plain_toJson)]
  rfl

theorem isReadable_of_ofText {text : List Char} {a : Analysis} (h : ofText text = .ok a) :
    a.IsReadable :=
  Json.of_read_eq_ok gives_ofSource (Json.eq_ok_of_mapError h)

end Analysis

/-! ## Analyses of code -/

/-- A nest of fewer than 2^32 loops has its depth as the degree. -/
theorem LoopNest.isReadable_growth {n : LoopNest} (h : n.depth < UInt32.size) :
    n.growth.IsReadable := by
  obtain ⟨depth, halving⟩ := n
  match depth, halving with
  | 0, _ => exact .inl rfl
  | 1, true => exact .inl rfl
  | 1, false => exact .inl rfl
  | 2, _ => exact .inl rfl
  | 3, _ => exact .inl rfl
  | depth + 4, _ =>
    refine .inr ⟨UInt32.ofNat (depth + 4), ?_, rfl⟩
    rw [UInt32.lt_iff_toNat_lt, UInt32.toNat_ofNat_of_lt' h]
    exact Nat.lt_add_left depth (by decide)

/-- The source bounds the depth, since trimming adds no lines. -/
theorem Snippet.depth_ofText_le (code : List Char) :
    (LoopNest.ofLines (ofText code).lines).depth ≤ (Text.lines code).length :=
  (LoopNest.depth_ofLines_le _).trans
    ((List.length_map _).trans_le (Text.length_lines_trim_le code))

theorem Snippet.isReadable_of_mem_findings {s : Snippet}
    (hdepth : (LoopNest.ofLines s.lines).depth < UInt32.size) {f : Finding}
    (h : f ∈ s.findings) : f.growth.IsReadable := by
  have hgrowth := (mem_growths_iff (growth_ne_constant_of_mem h)).mp (List.mem_map_of_mem h)
  rcases hgrowth with hg | ⟨-, hg⟩ | hg | ⟨l, hl, -, hg⟩
  · rw [← hg, algorithm]
    rcases Algorithm.detect_eq_or s.normalized with hd | ⟨a, hd⟩ <;> rw [hd]
    · exact .inl rfl
    · cases a <;> exact .inl rfl
  · rw [← hg, loops, LoopNest.growth_finding]
    exact LoopNest.isReadable_growth hdepth
  · rw [← hg, recursion]
    rcases SelfCalls.finding_eq_cases s.selfCalls s.lowered with
      ⟨-, hd⟩ | ⟨-, -, hd⟩ | ⟨-, -, hd | hd⟩ <;> rw [hd] <;> exact .inl rfl
  · rw [← hg]
    rcases LibraryCall.growth_eq_or_of_mem_catalog hl with hd | hd <;> rw [hd] <;> exact .inl rfl

namespace Analysis

/-- Fewer than 2^32 lines leave no room for a nest so deep that its degree is cut. -/
theorem isReadable_ofCode {code : List Char} (h : (Text.lines code).length < UInt32.size) :
    (ofCode code).IsReadable where
  time := .inl (isRanked_time_ofCode code)
  space := .inl (isRanked_space_ofCode code).1
  findings _ hf := Snippet.isReadable_of_mem_findings
    ((Snippet.depth_ofText_le code).trans_lt h) hf

/-- The text that is written for the analysis which another text writes. -/
def rewritten (text : List Char) : Except Error (List Char) :=
  (ofText text).map fun a => Json.compact a.toJson

/-- Analyses whose classes their labels name are read back from JSON as they were, among them all
analyses of fewer than 2^32 lines and all that were read from JSON, so that reading and writing
again what was read and written changes nothing. -/
theorem survives_json :
    (∀ a : Analysis, a.IsReadable → ofText (Json.compact a.toJson) = .ok a) ∧
    (∀ code, (Text.lines code).length < UInt32.size → (ofCode code).IsReadable) ∧
    (∀ text a, ofText text = .ok a → a.IsReadable) ∧
    ∀ text written, rewritten text = .ok written → rewritten written = .ok written := by
  refine ⟨fun a => ofText_compact, fun code => isReadable_ofCode,
    fun text a => isReadable_of_ofText, fun text written h => ?_⟩
  cases hread : ofText text with
  | error e =>
    rw [rewritten, hread] at h
    cases h
  | ok a =>
    rw [rewritten, hread] at h
    cases h
    rw [rewritten, ofText_compact (isReadable_of_ofText hread)]
    rfl

/-- Signs that are escaped, the highest degree, a nest of two loops, and a text in another
spelling. -/
theorem survives_json_escapes :
    let a : Analysis :=
      ⟨.polynomial 4, .linear, "\"a\\b\"\n\x00é", [⟨"\t", .polynomial 4294967295, "\x1f"⟩]⟩
    let b : Analysis := ⟨.polynomial 7, .constant, "é", []⟩
    let code := "for (;i<n;)\n for (;j<n;)".toList
    let text := " [\"o(N^007)\", \"O(1)\", \"\\u00e9\", []] ".toList
    ofText (Json.compact a.toJson) = .ok a ∧ (ofCode code).IsReadable ∧ b.IsReadable ∧
      rewritten text = .ok (Json.compact b.toJson) ∧
      rewritten (Json.compact b.toJson) = .ok (Json.compact b.toJson) := by
  intro a b code text
  have ha : a.IsReadable :=
    ⟨.inr ⟨4, by decide, rfl⟩, .inl rfl,
      List.forall_mem_singleton.mpr (.inr ⟨4294967295, by decide, rfl⟩)⟩
  have hread : ofText text = .ok b := Json.eq_ok_of_toOption (by decide +kernel)
  have hwritten : rewritten text = .ok (Json.compact b.toJson) := by
    rw [rewritten, hread]
    rfl
  exact ⟨survives_json.1 a ha, survives_json.2.1 code (by decide +kernel),
    survives_json.2.2.1 text b hread, hwritten, survives_json.2.2.2 text _ hwritten⟩

end Analysis

end GrowthScan
