import GrowthScan.Proofs.Declaration.Lines
import GrowthScan.Proofs.Text.Margins

/-!
# Declarations and the margins of lines

A gap in front of a line moves the start of a header that type words lead, but not
its name and its end, and a header that a keyword leads moves as a whole. So the
declaration on a line does not depend on the margins (`onLine?_ignoresMargins`),
whichever of the two kinds it is found by.
-/

namespace GrowthScan

namespace Text

theorem getLast?_trimEnd_cons {c : Char} (hc : isBlank c = true) (l : List Char) :
    (trimEnd (c :: l)).getLast? = (trimEnd l).getLast? := by
  rw [← List.singleton_append, trimEnd_append]
  split
  · rename_i h
    rw [h, trimEnd_eq_nil_iff.mpr (by simpa using hc)]
  · rename_i h
    exact List.getLast?_cons_of_ne_nil h

end Text

namespace Header

theorem length_name_ofRun_le (run : List Char) : (NamedRun.ofRun run).name.length ≤ run.length := by
  rw [NamedRun.ofRun, List.length_reverse]
  refine Nat.le_trans (List.takeWhile_sublist _).length_le ?_
  refine Nat.le_trans (List.dropWhile_sublist _).length_le ?_
  rw [List.length_reverse]

/-- The name stands in the run, so that what is in front of the run does not make a call. -/
theorem isSuffixOf_append (front run : List Char) :
    ((NamedRun.ofRun run).name ++ ['(']).isSuffixOf (front ++ run ++ ['(']) =
      ((NamedRun.ofRun run).name ++ ['(']).isSuffixOf (run ++ ['(']) := by
  have hlen : ((NamedRun.ofRun run).name ++ ['(']).length ≤ (run ++ ['(']).length := by
    have := length_name_ofRun_le run
    simp only [List.length_append]
    omega
  rw [Bool.eq_iff_iff, List.isSuffixOf_iff_suffix, List.isSuffixOf_iff_suffix, List.append_assoc]
  exact ⟨fun h => List.suffix_of_suffix_length_le h (List.suffix_append _ _) hlen,
    fun h => h.trans (List.suffix_append _ _)⟩

theorem isWord_of_isGap {c : Char} (hc : isGap c = true) : Text.isWord c = false :=
  isWord_of_isTypeEnd (by rw [isTypeEnd, hc]; rfl)

/-- No keyword starts with a gap. -/
theorem ofKeyword?_cons_gap {c : Char} (hc : isGap c = true) (n : Nat) (s : List Char) :
    ofKeyword? n (c :: s) = none := by
  have hkeyword : isKeyword ((c :: s).takeWhile Text.isWord) = false := by
    rw [List.takeWhile_cons_of_neg (by simp [isWord_of_isGap hc])]
    decide
  rw [ofKeyword?, hkeyword]
  rfl

theorem keywordLed?_cons_gap {c : Char} (hc : isGap c = true) (line : List Char) :
    keywordLed? (c :: line) = (keywordLed? line).map (shift 1) := by
  rw [keywordLed?, keywordLedFrom?_cons, ofKeyword?_cons_gap hc, ite_self, Option.none_or,
    isWord_of_isGap hc, Nat.zero_add, keywordLedFrom?_zero_add]

theorem keywordLed?_concat_return (line : List Char) :
    keywordLed? (line ++ ['\r']) = keywordLed? line := by
  rw [keywordLed?, keywordLedFrom?_append_cons (by decide), keywordLedFrom?, Option.or_none,
    keywordLed?]

theorem ofLine?_concat_return (n : Nat) (line : List Char) :
    ofLine? n (line ++ ['\r']) = ofLine? n line := by
  have hrun := runToParenthesis?_append_cons (c := '\r') (by decide)
    (p := fun c => isQualifiedPart c || isGap c) (by decide) (line.dropWhile isGap) []
  have hgap : isGap '\r' = false := by decide
  simp only [ofLine?, Text.takeWhile_append_cons hgap, Text.dropWhile_append_cons hgap, hrun,
    Text.trimEnd_concat (show Text.isBlank '\r' = true by decide)]

/-- A gap moves the start of the header of a line, but not what it declares. -/
theorem ofLine?_cons_gap {c : Char} (hc : isGap c = true) (i : Nat) (line : List Char) :
    (ofLine? 0 (c :: line)).map (Declaration.ofHeader i) =
      (ofLine? 0 line).map (Declaration.ofHeader i) := by
  simp only [ofLine?, Option.bind_eq_bind, List.takeWhile_cons_of_pos hc,
    List.dropWhile_cons_of_pos hc, Text.getLast?_trimEnd_cons (Text.isBlank_of_isGap hc)]
  cases runToParenthesis? (fun c => isQualifiedPart c || isGap c) (line.dropWhile isGap) with
  | none => rfl
  | some run =>
    rw [Option.bind_some, Option.bind_some]
    split
    · simp only [Option.map_some, Declaration.ofHeader, isSuffixOf_append]
    · rfl

end Header

namespace Declaration

theorem onLine?_ignoresMargins (i : Nat) : Text.IgnoresMargins (onLine? i) where
  cons_gap c l hc := by
    rw [onLine?, onLine?, Header.onLine?, Header.onLine?, Option.map_or, Option.map_or,
      Header.ofLine?_cons_gap hc, Header.keywordLed?_cons_gap hc, Option.map_map]
    rfl
  concat_return l := by
    rw [onLine?, onLine?, Header.onLine?, Header.onLine?, Header.ofLine?_concat_return,
      Header.keywordLed?_concat_return]

/-- Texts whose lines are alike declare the same function on the same line. -/
theorem find?_eq_of_alike {ls ls' : List (List Char)} (hls : ∀ l ∈ ls, '\n' ∉ l)
    (h : Text.Alike ls ls') : find? (Text.joinLines ls) = find? (Text.joinLines ls') := by
  have hfrom (n : Nat) : ((ls.zipIdx n).findSome? fun p => onLine? p.2 p.1) =
      (ls'.zipIdx n).findSome? fun p => onLine? p.2 p.1 := by
    clear hls
    induction h generalizing n with
    | nil => rfl
    | cons hl _ ih =>
      rw [List.zipIdx_cons, List.zipIdx_cons, List.findSome?_cons, List.findSome?_cons, ih,
        (onLine?_ignoresMargins n).eq_of_bare_eq hl]
  rw [find?_joinLines hls, find?_joinLines (h.forall_mem .not_mem hls), hfrom]

end Declaration

end GrowthScan
