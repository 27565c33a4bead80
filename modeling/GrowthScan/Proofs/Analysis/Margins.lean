import GrowthScan.Analysis
import GrowthScan.Proofs.Declaration.Margins
import GrowthScan.Proofs.Text.Case

/-!
# Analysis and the margins of lines

A snippet made of lines has forms that come from its lines, each on its own
(`Snippet.ofText_joinLines`), so none of the detectors reads a margin. `SameCues`
collects what they do read, and texts whose lines are alike agree in all of it
(`Analysis.ofCode_eq_of_alike`).
-/

namespace GrowthScan

namespace Text

/-! ## Words in a text -/

/-- A word that no margin holds a part of, except behind its first character. -/
def isSolid (w : List Char) : Bool :=
  w.all (fun c => c != '\n' && c != '\r') && w.head?.any fun c => !isGap c

section

variable {w : List Char} (hw : isSolid w = true)

include hw

theorem ne_nil_of_isSolid : w ≠ [] := by
  rintro rfl
  cases hw

theorem not_mem_of_isSolid : '\n' ∉ w ∧ '\r' ∉ w := by
  simp only [isSolid, Bool.and_eq_true, List.all_eq_true, bne_iff_ne] at hw
  exact ⟨fun h => (hw.1 _ h).1 rfl, fun h => (hw.1 _ h).2 rfl⟩

theorem occurs_ignoresMargins : IgnoresMargins (occurs w) where
  cons_gap c l hc := by
    have hfront : ¬ w <+: c :: l := by
      intro h
      rcases List.prefix_cons_iff.mp h with rfl | ⟨t, rfl, -⟩
      · exact ne_nil_of_isSolid hw rfl
      · simp [isSolid, hc] at hw
    rw [Bool.eq_iff_iff, occurs_iff, occurs_iff, List.infix_cons_iff, eq_false hfront, false_or]
  concat_return l := by
    have hnil : ¬ w <:+: [] := fun h => ne_nil_of_isSolid hw (List.infix_nil.mp h)
    rw [Bool.eq_iff_iff, occurs_iff, occurs_iff, infix_append_cons_iff (not_mem_of_isSolid hw).2,
      eq_false hnil, or_false]

theorem occurs_joinLines (ls : List (List Char)) :
    occurs w (joinLines ls) = (ls.map (occurs w)).any id := by
  rw [Bool.eq_iff_iff, occurs_iff, List.any_map, List.any_eq_true,
    infix_joinLines_iff (ne_nil_of_isSolid hw) (not_mem_of_isSolid hw).1]
  simp only [Function.comp_apply, id_eq, occurs_iff]

end

/-- Lower-casing leaves margins as they are. -/
theorem IgnoresMargins.comp_lower {f : List Char → α} (hf : IgnoresMargins f) :
    IgnoresMargins fun l => f (lower l) where
  cons_gap c l hc := by
    rw [lower_cons (isNeutral_of_isBlank (isBlank_of_isGap hc)), hf.cons_gap c _ hc]
  concat_return l := by
    rw [lower_concat (isNeutral_of_isBlank (by decide)), hf.concat_return]

theorem words_ignoresMargins : IgnoresMargins words where
  cons_gap c l hc := by
    rw [← List.nil_append (c :: l), words_append_cons (isBlank_of_isGap hc), words_nil,
      List.nil_append]
  concat_return l := by rw [words_append_cons (by decide), words_nil, List.append_nil]

/-- Texts that no solid word tells apart. -/
def SameWords (a b : List Char) : Prop := ∀ w, isSolid w = true → occurs w a = occurs w b

theorem SameWords.occursAny_eq {a b : List Char} (h : SameWords a b) {ws : List (List Char)}
    (hws : ∀ w ∈ ws, isSolid w = true) : occursAny ws a = occursAny ws b := by
  rw [Bool.eq_iff_iff, occursAny, occursAny, List.any_eq_true, List.any_eq_true]
  exact exists_congr fun w => and_congr_right fun hw => by rw [h w (hws w hw)]

section

variable {ls ls' : List (List Char)} (h : Alike ls ls')

include h

theorem Alike.sameWords : SameWords (joinLines ls) (joinLines ls') := fun w hw => by
  rw [occurs_joinLines hw, occurs_joinLines hw, h.map_eq (occurs_ignoresMargins hw)]

theorem Alike.sameWords_lower :
    SameWords (joinLines (ls.map lower)) (joinLines (ls'.map lower)) := fun w hw => by
  rw [occurs_joinLines hw, occurs_joinLines hw, List.map_map, List.map_map]
  exact congrArg (List.any · id) (h.map_eq (occurs_ignoresMargins hw).comp_lower)

end

/-! ## Lines read back -/

/-- Lines that do not end with an empty one are read back, but for their margins. -/
theorem map_trim_lines_joinLines {ls : List (List Char)} (hls : ∀ l ∈ ls, '\n' ∉ l)
    (hlast : ∀ l ∈ ls.getLast?, l ≠ []) : (lines (joinLines ls)).map trim = ls.map trim := by
  cases hnil : ls with
  | nil => rfl
  | cons l more =>
    rw [← hnil]
    have hsplit : (joinLines ls).splitOn '\n' = ls :=
      List.splitOn_intercalate _ hls (hnil ▸ List.cons_ne_nil _ _)
    obtain ⟨ms, halike, hms | hms⟩ := alike_lines (joinLines ls)
    · rw [halike.map_eq .trim, ← hms, hsplit]
    · rw [hsplit] at hms
      exact absurd rfl (hlast [] (hms ▸ List.getLast?_concat))

end Text

/-! ## What the detectors read -/

open Text (SameWords)

section

variable {a b : List Char} (h : SameWords a b)

include h

theorem LibraryCall.findings_eq_of_sameWords : findings a = findings b := by
  have hsolid : ∀ l ∈ catalog, Text.isSolid l.name.toList = true := by decide
  have hoccurs : ∀ l ∈ catalog, l.occursIn a = l.occursIn b := fun l hl => h _ (hsolid l hl)
  rw [findings, findings, List.filter_congr hoccurs]

theorem SelfCalls.finding_eq_of_sameWords (s : SelfCalls) : s.finding a = s.finding b := by
  rw [finding, finding, h _ (by decide), h.occursAny_eq (by decide)]

theorem Space.estimate_eq_of_sameWords (recursion : Growth) :
    estimate a recursion = estimate b recursion := by
  have hallocates : allocates a = allocates b := h.occursAny_eq (by decide)
  have htable : buildsTable a = buildsTable b := by
    rw [buildsTable, buildsTable, h _ (by decide), h _ (by decide), h "[".toList (by decide),
      h _ (by decide)]
  rw [estimate, estimate, htable, ofAllocation, ofAllocation, hallocates]

end

namespace Snippet

/-- Snippets of which the detectors read the same. -/
structure SameCues (s t : Snippet) : Prop where
  code : SameWords s.code t.code
  declaration : Declaration.find? s.code = Declaration.find? t.code
  lines : s.lines = t.lines
  normalized : s.normalized = t.normalized
  lowered : SameWords s.lowered t.lowered

theorem SameCues.analysis_eq {s t : Snippet} (h : SameCues s t) : s.analysis = t.analysis := by
  have halgorithm : s.algorithm = t.algorithm := congrArg Algorithm.detect h.normalized
  have hloops : s.loops = t.loops := by rw [loops, h.lines, loops]
  have hselfCalls : s.selfCalls = t.selfCalls := by
    rw [selfCalls, selfCalls, SelfCalls.scan, SelfCalls.scan, h.declaration, h.lines]
  have hrecursion : s.recursion = t.recursion := by
    rw [recursion, recursion, hselfCalls, SelfCalls.finding_eq_of_sameWords h.lowered]
  have hlibrary : s.libraryCalls = t.libraryCalls := LibraryCall.findings_eq_of_sameWords h.code
  have hspace (g : Growth) : s.space g = t.space g := Space.estimate_eq_of_sameWords h.code g
  have hfindings : s.findings = t.findings := by
    simp only [findings, halgorithm, hloops, hrecursion, hlibrary]
  simp only [analysis, hfindings, hrecursion, hspace]

/-- The forms of a snippet come from the lines that trimming leaves of it. -/
theorem ofText_joinLines {ls : List (List Char)} (hls : ∀ l ∈ ls, '\n' ∉ l) :
    ofText (Text.joinLines ls) =
      ⟨Text.joinLines (Text.trimLines ls), (Text.trimLines ls).map Text.trim,
        Text.unwords ((Text.trimLines ls).flatMap fun l => Text.words (Text.lower l)),
        Text.joinLines ((Text.trimLines ls).map Text.lower)⟩ := by
  have hlines := Text.map_trim_lines_joinLines (Text.not_mem_of_mem_trimLines hls)
    fun _ => Text.ne_nil_of_mem_getLast?_trimBack
  rw [ofText, Text.trim_joinLines, normalize, Text.lower_joinLines, Text.words_joinLines,
    List.flatMap_map, hlines]

end Snippet

namespace Analysis

/-- Texts whose lines are alike have the same analysis. -/
theorem ofCode_eq_of_alike {ls ls' : List (List Char)} (hls : ∀ l ∈ ls, '\n' ∉ l)
    (h : Text.Alike ls ls') : ofCode (Text.joinLines ls) = ofCode (Text.joinLines ls') := by
  have htrim := h.trimLines
  refine Snippet.SameCues.analysis_eq ?_
  rw [Snippet.ofText_joinLines hls, Snippet.ofText_joinLines (h.forall_mem .not_mem hls)]
  exact
    { code := htrim.sameWords
      declaration := Declaration.find?_eq_of_alike (Text.not_mem_of_mem_trimLines hls) htrim
      lines := htrim.map_eq .trim
      normalized := by
        simp only [List.flatMap_def, htrim.map_eq Text.words_ignoresMargins.comp_lower]
      lowered := htrim.sameWords_lower }

end Analysis

end GrowthScan
