import GrowthScan.Proofs.Declaration.Margins
import GrowthScan.Proofs.Text.Occurrences

/-!
# What a header holds

A header that is found is a run and its one parenthesis (`Header.Sound`). The run ends in the
name, and something leads to the name that is no part of it. So where the header looks
like a call, it is a call of the whole name (`Header.Sound.rtakeWhile_run`), and a line that
declares a function has that call on it (`Header.Sound.name_mem_calledNames`).
-/

namespace GrowthScan

open Text (isWord calledNames)

namespace NamedRun

theorem isWord_of_mem_name {run : List Char} {c : Char} (h : c ∈ (ofRun run).name) :
    isWord c = true :=
  List.mem_takeWhile_imp (List.mem_reverse.mp h)

/-- A run that ends in its name has no gap behind it: the name is its last word. -/
theorem ofRun_of_suffix {run : List Char} (hname : (ofRun run).name ≠ [])
    (h : (ofRun run).name <:+ run) :
    ofRun run = ⟨run.rdropWhile isWord, run.rtakeWhile isWord, []⟩ := by
  obtain ⟨front, hfront⟩ := h
  obtain ⟨init, c, hc⟩ := (List.eq_nil_or_concat _).resolve_left hname
  have hgap : ¬ isGap c = true := by
    have hmem : c ∈ (ofRun run).name := by rw [hc]; simp
    simp [Header.isGap_of_isWord (isWord_of_mem_name hmem)]
  have hback : run.reverse = c :: (front ++ init).reverse := by
    rw [← hfront, hc]
    simp
  rw [ofRun, hback, List.dropWhile_cons_of_neg hgap, List.takeWhile_cons_of_neg hgap, ← hback]
  rfl

end NamedRun

namespace Header

/-- The header without its parenthesis. -/
def run (h : Header) : List Char := h.text.dropLast

/-- A header as it is found in a text. -/
structure Sound (h : Header) : Prop where
  text_eq : h.text = h.run ++ ['(']
  /-- There is no other parenthesis, and no line feed. -/
  isQualifiedPart_or_isGap : ∀ c ∈ h.run, (isQualifiedPart c || isGap c) = true
  name_eq : (NamedRun.ofRun h.run).name = h.name
  name_ne_nil : h.name ≠ []
  /-- So what stands in front of the header is no part of the name. -/
  lead_ne_nil : (NamedRun.ofRun h.run).lead ≠ []

/-- A run that leads to a name with something makes a header, whatever gaps or words stand in front
of it. -/
theorem sound_of_run {n : Nat} {front run : List Char}
    (hall : ∀ c ∈ front ++ run, (isQualifiedPart c || isGap c) = true)
    (hname : (NamedRun.ofRun run).name ≠ []) (hlead : (NamedRun.ofRun run).lead ≠ []) :
    Sound ⟨n, front ++ run ++ ['('], (NamedRun.ofRun run).name⟩ := by
  have hrun : Header.run ⟨n, front ++ run ++ ['('], (NamedRun.ofRun run).name⟩ = front ++ run :=
    List.dropLast_concat
  exact
    { text_eq := by rw [hrun]
      isQualifiedPart_or_isGap := by rw [hrun]; exact hall
      name_eq := by rw [hrun, ofRun_append front hlead]
      name_ne_nil := hname
      lead_ne_nil := by
        rw [hrun, ofRun_append front hlead]
        exact List.append_ne_nil_of_right_ne_nil front hlead }

namespace Sound

variable {h : Header} (hh : h.Sound)

include hh

theorem not_mem_run {c : Char} (hc : (isQualifiedPart c || isGap c) = false) : c ∉ h.run := by
  intro hmem
  rw [hh.isQualifiedPart_or_isGap c hmem] at hc
  cases hc

theorem isWord_of_mem_name {c : Char} (hc : c ∈ h.name) : isWord c = true :=
  NamedRun.isWord_of_mem_name (hh.name_eq.symm ▸ hc)

/-- The header looks like a call if there is no gap behind the name. -/
theorem isSuffixOf_text_iff :
    (h.name ++ ['(']).isSuffixOf h.text = true ↔ h.name <:+ h.run := by
  rw [List.isSuffixOf_iff_suffix, hh.text_eq, List.suffix_append_self_iff]

/-- A header that looks like a call has the whole name in front of its parenthesis, whatever
stands in front of the header. -/
theorem rtakeWhile_run (front : List Char) (hcall : h.name <:+ h.run) :
    (front ++ h.run).rtakeWhile isWord = h.name := by
  have hparts := NamedRun.ofRun_of_suffix (hh.name_eq ▸ hh.name_ne_nil) (hh.name_eq ▸ hcall)
  have hlead := hh.lead_ne_nil
  have hname := hh.name_eq
  rw [hparts] at hlead hname
  calc (front ++ h.run).rtakeWhile isWord
    _ = h.run.rtakeWhile isWord := Text.rtakeWhile_append_of_rdropWhile hlead front
    _ = h.name := hname

/-- A line with a header that looks like a call has that call on it, of the whole name. -/
theorem name_mem_calledNames {line : List Char} (htext : h.text <:+: line)
    (hcall : h.name <:+ h.run) : h.name ∈ calledNames line := by
  obtain ⟨front, rest, rfl⟩ := htext
  have hmem := Text.rtakeWhile_mem_calledNames (front ++ h.run) rest
  rw [hh.rtakeWhile_run front hcall] at hmem
  rw [hh.text_eq]
  simpa using hmem

end Sound

/-! ## Headers that are found -/

theorem sound_of_ofKeyword? {n : Nat} {s : List Char} {h : Header} (hh : ofKeyword? n s = some h) :
    h.Sound ∧ h.text <+: s := by
  obtain ⟨keyword, c, run, rest, rfl, -, hword, hend, hrun, hname, rfl⟩ := ofKeyword?_eq_some hh
  exact ⟨sound_of_run (isQualifiedPart_or_isGap hword hrun) hname
    (lead_ofRun_cons_ne_nil (isWord_of_isTypeEnd hend) hname), rest, by simp⟩

theorem sound_of_ofLine? {n : Nat} {line : List Char} {h : Header}
    (hh : ofLine? n line = some h) : h.Sound ∧ h.text <+: line := by
  obtain ⟨run, hrun, hname, hlead, rfl⟩ := ofLine?_eq_some hh
  obtain ⟨⟨rest, hrest⟩, hall⟩ := runToParenthesis?_eq_some hrun
  refine ⟨sound_of_run (fun c hc => ?_) hname hlead, rest, ?_⟩
  · rcases List.mem_append.mp hc with hc | hc
    · rw [List.mem_takeWhile_imp hc, Bool.or_true]
    · exact hall c hc
  · calc line.takeWhile isGap ++ run ++ ['('] ++ rest
      _ = line.takeWhile isGap ++ (run ++ '(' :: rest) := by simp
      _ = line := by rw [← hrest, List.takeWhile_append_dropWhile]

/-- A header that a keyword leads stands where that keyword does. -/
theorem exists_of_keywordLedFrom? {n : Nat} {inWord : Bool} {s : List Char} {h : Header}
    (hh : keywordLedFrom? n inWord s = some h) : ∃ m t, t <:+ s ∧ ofKeyword? m t = some h := by
  induction s generalizing n inWord with
  | nil => cases hh
  | cons c s ih =>
    rw [keywordLedFrom?_cons, Option.or_eq_some_iff] at hh
    rcases hh with hh | ⟨-, hh⟩
    · split at hh
      · cases hh
      · exact ⟨n, c :: s, List.suffix_refl _, hh⟩
    · obtain ⟨m, t, ht, hk⟩ := ih hh
      exact ⟨m, t, ht.trans (List.suffix_cons c s), hk⟩

theorem exists_of_typedFrom? {n : Nat} {ls : List (List Char)} {h : Header}
    (hh : typedFrom? n ls = some h) : ∃ m, ∃ l ∈ ls, ofLine? m l = some h := by
  induction ls generalizing n with
  | nil => cases hh
  | cons l ls ih =>
    rw [typedFrom?] at hh
    split at hh
    · rename_i hl
      exact ⟨n, l, List.mem_cons_self, hl.trans hh⟩
    · obtain ⟨m, k, hk, hl⟩ := ih hh
      exact ⟨m, k, List.mem_cons_of_mem l hk, hl⟩

theorem sound_of_keywordLed? {s : List Char} {h : Header} (hh : keywordLed? s = some h) :
    h.Sound ∧ h.text <:+: s := by
  obtain ⟨m, t, ht, hk⟩ := exists_of_keywordLedFrom? hh
  obtain ⟨hsound, htext⟩ := sound_of_ofKeyword? hk
  exact ⟨hsound, htext.isInfix.trans ht.isInfix⟩

theorem sound_of_onLine? {line : List Char} {h : Header} (hh : onLine? line = some h) :
    h.Sound ∧ h.text <:+: line := by
  rcases Option.or_eq_some_iff.mp hh with hh | ⟨-, hh⟩
  · obtain ⟨hsound, htext⟩ := sound_of_ofLine? hh
    exact ⟨hsound, htext.isInfix⟩
  · exact sound_of_keywordLed? hh

theorem sound_of_first? {code : List Char} {h : Header} (hh : first? code = some h) : h.Sound := by
  rw [first?_eq] at hh
  rcases eq_some_of_earlier hh with hk | ht
  · exact (sound_of_keywordLed? hk).1
  · obtain ⟨m, l, -, hl⟩ := exists_of_typedFrom? ht
    exact (sound_of_ofLine? hl).1

end Header

end GrowthScan
