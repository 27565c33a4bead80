import GrowthScan.Analysis
import GrowthScan.Proofs.Declaration.Header
import GrowthScan.Proofs.Declaration.Search

/-!
# Self-calls are counted exactly

The line of a declaration is found by counting line feeds in front of its header, and the lines
of a text are split and trimmed apart from that. Both agree: the line with the header's number
has the header on it (`Declaration.exists_header_of_find?`), and so has the trimmed line the
call that the header may look like (`Declaration.exists_line_of_find?`). One place of the
call is left out on that line, and no other anywhere, so the calls are the places in the text but
for that one (`SelfCalls.counts_ofCode`).
-/

namespace GrowthScan

open Text (isWord isBlank occurrences)

namespace Text

/-- A piece between line feeds is a line of its text, but for its margins, if it is not empty. -/
theorem map_trim_lines_getElem? {s l : List Char} {i : Nat} (h : (s.splitOn '\n')[i]? = some l)
    (hl : l ≠ []) : ((lines s).map trim)[i]? = some (trim l) := by
  obtain ⟨ls, halike, hparts⟩ := alike_lines s
  have hi : ls[i]? = some l := by
    rcases hparts with hparts | hparts
    · rw [← hparts, h]
    · rw [hparts, List.getElem?_append] at h
      split at h
      · exact h
      · exact absurd (List.mem_singleton.mp (List.mem_of_getElem? h)) hl
  rw [halike.map_eq .trim, List.getElem?_map, hi, Option.map_some]

end Text

namespace Declaration

/-- The places of the call on the line at this index that belong to the header itself. -/
def ownCalls (d : Declaration) (index : Nat) : Nat :=
  if index = d.line then d.hasCallShape.toNat else 0

variable {code : List Char} {d : Declaration}

/-- The line of a declaration has its header on it. -/
theorem exists_header_of_find? (h : find? code = some d) : ∃ line header,
    (code.splitOn '\n')[d.line]? = some line ∧ header.Sound ∧ header.text <:+: line ∧
      d = ofHeader d.line header := by
  have hcode : Text.joinLines (code.splitOn '\n') = code := List.intercalate_splitOn '\n'
  rw [← hcode, find?_joinLines (Text.not_mem_of_mem_splitOn code)] at h
  obtain ⟨⟨line, i⟩, hmem, hline⟩ := List.exists_of_findSome?_eq_some h
  obtain ⟨header, hheader, rfl⟩ := Option.map_eq_some_iff.mp hline
  obtain ⟨hsound, htext⟩ := Header.sound_of_onLine? hheader
  exact ⟨line, header, List.mk_mem_zipIdx_iff_getElem?.mp hmem, hsound, htext, rfl⟩

theorem name_ne_nil_of_find? (h : find? code = some d) : d.name ≠ [] := by
  obtain ⟨line, header, -, hsound, -, hd⟩ := exists_header_of_find? h
  rw [hd]
  exact hsound.name_ne_nil

theorem isWord_of_find? (h : find? code = some d) : ∀ c ∈ d.name, isWord c = true := by
  obtain ⟨line, header, -, hsound, -, hd⟩ := exists_header_of_find? h
  rw [hd]
  exact fun c hc => hsound.isWord_of_mem_name hc

theorem call_ne_nil (d : Declaration) : d.call ≠ [] :=
  List.append_ne_nil_of_right_ne_nil _ (List.cons_ne_nil _ _)

/-- A call holds no blank. -/
theorem isBlank_of_find? (h : find? code = some d) : ∀ c ∈ d.call, isBlank c = false := by
  intro c hc
  rcases List.mem_append.mp hc with hc | hc
  · have hword := isWord_of_find? h c hc
    cases hblank : isBlank c with
    | false => rfl
    | true => rw [Text.isWord_of_isBlank hblank] at hword; cases hword
  · rw [List.mem_singleton.mp hc]
    decide

/-- Among the lines there is one with the number of the declaration. If the header looks like a
call, that line holds it, and the name is a whole word there. -/
theorem exists_line_of_find? (h : find? code = some d) : ∃ line,
    ((Text.lines code).map Text.trim)[d.line]? = some line ∧
      (d.hasCallShape = true → d.name ∈ Text.calledNames line) := by
  obtain ⟨line, header, hline, hsound, htext, hd⟩ := exists_header_of_find? h
  have hne : line ≠ [] := by
    rintro rfl
    have hnil := hsound.text_eq.symm.trans (List.infix_nil.mp htext)
    simp at hnil
  refine ⟨Text.trim line, Text.map_trim_lines_getElem? hline hne, fun hshape => ?_⟩
  rw [hd] at hshape ⊢
  rw [Text.calledNames_trim]
  exact hsound.name_mem_calledNames htext (hsound.isSuffixOf_text_iff.mp hshape)

end Declaration

namespace SelfCalls

/-- The calls in a text, whose lines are read without the blanks at their ends. -/
def ofCode (code : List Char) : SelfCalls := scan code ((Text.lines code).map Text.trim)

/-- What the calls of a declaration are, in terms of the places of its name with a parenthesis. -/
structure Counts (s : SelfCalls) (d : Declaration) (code : List Char) (lines : List (List Char)) :
    Prop where
  declaration_eq : s.declaration = some d
  name_ne_nil : d.name ≠ []
  isWord_of_mem_name : ∀ c ∈ d.name, isWord c = true
  line_lt : d.line < lines.length
  /-- The header's own place is on the line of that number, where it is left out. -/
  call_infix : d.hasCallShape = true → d.call <:+: lines[d.line]
  calls_add : s.calls + d.hasCallShape.toNat = occurrences d.call code
  several_iff : s.several = true ↔
    ∃ i line, lines[i]? = some line ∧ d.ownCalls i + 2 ≤ occurrences d.call line
  halving_iff : s.halving = true ↔ ∃ i line, lines[i]? = some line ∧
    d.ownCalls i + 1 ≤ occurrences d.call line ∧ hasHalvingCue line = true

theorem callsOnLine_eq (d : Declaration) (i : Nat) (line : List Char) :
    callsOnLine d i line = occurrences d.call line - d.ownCalls i := by
  unfold callsOnLine Declaration.ownCalls
  cases d.hasCallShape <;> simp

/-- One number less at one place makes a sum smaller by that number. -/
theorem sum_mapIdx_sub (f : α → Nat) {l : List α} {k n : Nat} {a : α} (ha : l[k]? = some a)
    (hn : n ≤ f a) :
    (l.mapIdx fun i x => f x - if i = k then n else 0).sum + n = (l.map f).sum := by
  induction l generalizing k with
  | nil => cases ha
  | cons b l ih =>
    rw [List.mapIdx_cons, List.sum_cons, List.map_cons, List.sum_cons]
    cases k with
    | zero =>
      obtain rfl : b = a := Option.some.inj ha
      have hrest : (l.mapIdx fun i x => f x - if i + 1 = 0 then n else 0) = l.map f :=
        List.ext_getElem? fun i => by simp
      rw [hrest, if_pos rfl]
      omega
    | succ k =>
      have hrest := ih (k := k) ha
      simp only [Nat.add_right_cancel_iff, Nat.zero_ne_add_one, if_false]
      omega

theorem any_mapIdx_iff {f : Nat → α → β} {p : β → Bool} {l : List α} :
    (l.mapIdx f).any p = true ↔ ∃ i a, l[i]? = some a ∧ p (f i a) = true := by
  rw [List.any_eq_true]
  constructor
  · rintro ⟨b, hb, hp⟩
    obtain ⟨i, hi, rfl⟩ := List.mem_mapIdx.mp hb
    exact ⟨i, l[i], List.getElem?_eq_getElem hi, hp⟩
  · rintro ⟨i, a, ha, hp⟩
    obtain ⟨hi, rfl⟩ := List.getElem?_eq_some_iff.mp ha
    exact ⟨f i l[i], List.mem_mapIdx.mpr ⟨i, hi, rfl⟩, hp⟩

theorem zip_mapIdx (f : Nat → α → β) (l : List α) :
    l.zip (l.mapIdx f) = l.mapIdx fun i a => (a, f i a) :=
  List.ext_getElem (by simp) fun i _ _ => by simp

section

variable {code : List Char} {d : Declaration} (h : Declaration.find? code = some d)

include h

theorem scan_eq_of_find? (lines : List (List Char)) : scan code lines =
    ⟨d, (lines.mapIdx fun i line => occurrences d.call line - d.ownCalls i).sum,
      (lines.mapIdx fun i line => occurrences d.call line - d.ownCalls i).any (1 < ·),
      (lines.mapIdx fun i line => (line, occurrences d.call line - d.ownCalls i)).any
        fun (line, n) => 0 < n && hasHalvingCue line⟩ := by
  have hcounts : callCounts d lines =
      lines.mapIdx fun i line => occurrences d.call line - d.ownCalls i :=
    congrArg (List.mapIdx · lines) (funext fun i => funext (callsOnLine_eq d i))
  simp only [scan, h, hcounts, zip_mapIdx]
  rfl

/-- The findings on a text count all places of the call but the header's own. -/
theorem counts_ofCode :
    (ofCode code).Counts d code ((Text.lines code).map Text.trim) := by
  obtain ⟨line, hline, hcall⟩ := Declaration.exists_line_of_find? h
  obtain ⟨hlt, hget⟩ := List.getElem?_eq_some_iff.mp hline
  have hwords := Declaration.isWord_of_find? h
  -- the header's own place is there, so the subtraction takes one off and not less
  have hplace : d.hasCallShape.toNat ≤ occurrences d.call line := by
    cases hshape : d.hasCallShape with
    | false => exact Nat.zero_le _
    | true =>
      rw [Declaration.call, Text.occurrences_call hwords, Bool.toNat_true, Nat.succ_le_iff,
        List.countP_pos_iff]
      exact ⟨d.name, hcall hshape, by simp⟩
  have hsum := sum_mapIdx_sub (occurrences d.call) hline hplace
  rw [Text.sum_occurrences_lines d.call_ne_nil (Declaration.isBlank_of_find? h)] at hsum
  rw [ofCode, scan_eq_of_find? h]
  exact
    { declaration_eq := rfl
      name_ne_nil := Declaration.name_ne_nil_of_find? h
      isWord_of_mem_name := hwords
      line_lt := hlt
      call_infix := fun hshape => by
        rw [hshape] at hplace
        rw [hget, ← Text.occurrences_pos_iff d.call_ne_nil]
        exact hplace
      calls_add := hsum
      several_iff := by
        rw [any_mapIdx_iff]
        simp only [decide_eq_true_eq]
        refine exists_congr fun i => exists_congr fun line => and_congr_right fun _ => ?_
        omega
      halving_iff := by
        rw [any_mapIdx_iff]
        simp only [Bool.and_eq_true, decide_eq_true_eq]
        refine exists_congr fun i => exists_congr fun line => and_congr_right fun _ => ?_
        refine and_congr_left fun _ => ?_
        omega }

end

end SelfCalls

/-- The calls to the function that a snippet declares are counted exactly; without a declaration
there are none. -/
theorem Snippet.counts_selfCalls (text : List Char) :
    (∀ d, Declaration.find? (ofText text).code = some d →
      (ofText text).selfCalls.Counts d (ofText text).code (ofText text).lines) ∧
      (Declaration.find? (ofText text).code = none →
        (ofText text).selfCalls = SelfCalls.none) := by
  refine ⟨fun d hd => SelfCalls.counts_ofCode hd, fun hnone => ?_⟩
  rw [selfCalls, SelfCalls.scan, hnone]

/-- The declaration stands on the third of the lines that are left, and its last line calls it
twice. -/
theorem Snippet.counts_selfCalls_twice :
    let text := "\n // depth\n\n  int depth(int n)\r\n if (!n) return 0;\n".toList ++
      " return depth(n/2) + depth(n-1);\n".toList
    let d : Declaration := ⟨"depth".toList, 2, true⟩
    Declaration.find? (ofText text).code = some d ∧
      (ofText text).selfCalls.Counts d (ofText text).code (ofText text).lines ∧
      (ofText text).selfCalls.calls = 2 := by
  intro text d
  have hd : Declaration.find? (ofText text).code = some d := by decide +kernel
  exact ⟨hd, (counts_selfCalls text).1 d hd, by decide +kernel⟩

end GrowthScan
