import GrowthScan.Declaration
import GrowthScan.Proofs.Text.Lines

/-!
# Declarations line by line

No header goes past the end of a line (`keywordLedFrom?_append_cons`). A keyword and
type words that lead headers from the same place lead the same header
(`eq_of_ofKeyword?_of_ofLine?`), so on a line that has both kinds the one that type words
lead counts, as it starts the line, and a tie decides nothing. A text declares what the
first of its lines declares that declares anything (`find?_joinLines`).
-/

namespace GrowthScan

open Text (takeWhile_append_cons dropWhile_append_cons)

namespace Header

theorem keywordLedFrom?_cons (n : Nat) (inWord : Bool) (c : Char) (s : List Char) :
    keywordLedFrom? n inWord (c :: s) =
      (if inWord then none else ofKeyword? n (c :: s)).or
        (keywordLedFrom? (n + 1) (Text.isWord c) s) := by
  rw [keywordLedFrom?]
  split
  · rename_i h
    rw [h, Option.some_or]
  · rename_i h
    rw [h, Option.none_or]

/-! ## Where headers end -/

/-- Whether no header goes past the character. -/
def isBreak (c : Char) : Bool := !isQualifiedPart c && !isGap c && c != '('

section

variable {c : Char} (hc : isBreak c = true)

include hc

theorem isQualifiedPart_of_isBreak : isQualifiedPart c = false := by
  simp only [isBreak, Bool.and_eq_true, Bool.not_eq_true'] at hc
  exact hc.1.1

theorem isGap_of_isBreak : isGap c = false := by
  simp only [isBreak, Bool.and_eq_true, Bool.not_eq_true'] at hc
  exact hc.1.2

theorem ne_parenthesis_of_isBreak : c ≠ '(' := by
  simp only [isBreak, Bool.and_eq_true, bne_iff_ne] at hc
  exact hc.2

theorem isTypePart_of_isBreak : isTypePart c = false :=
  (Bool.or_eq_false_iff.mp (isQualifiedPart_of_isBreak hc)).1

theorem isWord_of_isBreak : Text.isWord c = false := by
  have h := isTypePart_of_isBreak hc
  simp only [isTypePart, Bool.or_eq_false_iff] at h
  exact h.1.1.1.1.1.1.1

theorem isTypeEnd_of_isBreak : isTypeEnd c = false := by
  have h := isTypePart_of_isBreak hc
  simp only [isTypePart, Bool.or_eq_false_iff] at h
  simp only [isTypeEnd, isGap_of_isBreak hc, h, Bool.or_false]

theorem runToParenthesis?_append_cons {p : Char → Bool} (hp : p c = false) (a b : List Char) :
    runToParenthesis? p (a ++ c :: b) = runToParenthesis? p a := by
  rw [runToParenthesis?, runToParenthesis?, takeWhile_append_cons hp, dropWhile_append_cons hp]
  cases a.dropWhile p with
  | nil => simp [ne_parenthesis_of_isBreak hc]
  | cons d a => rfl

theorem ofKeyword?_append_cons (n : Nat) (a b : List Char) :
    ofKeyword? n (a ++ c :: b) = ofKeyword? n a := by
  have hhead : ((a.dropWhile Text.isWord ++ c :: b).head?).any isTypeEnd =
      ((a.dropWhile Text.isWord).head?).any isTypeEnd := by
    cases a.dropWhile Text.isWord with
    | nil => exact isTypeEnd_of_isBreak hc
    | cons d a => rfl
  have hrun := runToParenthesis?_append_cons hc (p := fun c => isTypePart c || isGap c)
    (by simp [isTypePart_of_isBreak hc, isGap_of_isBreak hc]) (a.dropWhile Text.isWord) b
  simp only [ofKeyword?, takeWhile_append_cons (isWord_of_isBreak hc),
    dropWhile_append_cons (isWord_of_isBreak hc), hhead, hrun]

theorem keywordLedFrom?_append_cons (n : Nat) (inWord : Bool) (a b : List Char) :
    keywordLedFrom? n inWord (a ++ c :: b) =
      (keywordLedFrom? n inWord a).or (keywordLedFrom? (n + a.length + 1) false b) := by
  induction a generalizing n inWord with
  | nil =>
    have hnone : ofKeyword? n (c :: b) = none := by
      rw [← List.nil_append (c :: b), ofKeyword?_append_cons hc]
      rfl
    rw [List.nil_append, keywordLedFrom?_cons, hnone, ite_self, isWord_of_isBreak hc]
    rfl
  | cons d a ih =>
    have hn : n + (d :: a).length + 1 = n + 1 + a.length + 1 := by
      rw [List.length_cons]; omega
    rw [List.cons_append, keywordLedFrom?_cons, keywordLedFrom?_cons, ih, ← List.cons_append,
      ofKeyword?_append_cons hc, Option.or_assoc, hn]

end

/-! ## Where headers start -/

/-- The header with `n` more characters in front of it. -/
def shift (n : Nat) (h : Header) : Header := { h with start := h.start + n }

theorem ofKeyword?_add (m n : Nat) (s : List Char) :
    ofKeyword? (m + n) s = (ofKeyword? m s).map (shift n) := by
  simp only [ofKeyword?, Option.bind_eq_bind]
  split
  · cases runToParenthesis? (fun c => isTypePart c || isGap c) (s.dropWhile Text.isWord) with
    | none => rfl
    | some run =>
      rw [Option.bind_some, Option.bind_some]
      split <;> rfl
  · rfl

theorem keywordLedFrom?_add (m n : Nat) (inWord : Bool) (s : List Char) :
    keywordLedFrom? (m + n) inWord s = (keywordLedFrom? m inWord s).map (shift n) := by
  induction s generalizing m inWord with
  | nil => rfl
  | cons c s ih =>
    rw [keywordLedFrom?_cons, keywordLedFrom?_cons, Nat.add_right_comm, ih, ofKeyword?_add]
    cases inWord <;> cases ofKeyword? m (c :: s) <;> rfl

theorem ofLine?_add (m n : Nat) (line : List Char) :
    ofLine? (m + n) line = (ofLine? m line).map (shift n) := by
  simp only [ofLine?, Option.bind_eq_bind]
  cases runToParenthesis? (fun c => isQualifiedPart c || isGap c) (line.dropWhile isGap) with
  | none => rfl
  | some run =>
    rw [Option.bind_some, Option.bind_some]
    split <;> rfl

theorem keywordLedFrom?_zero_add (n : Nat) (s : List Char) :
    keywordLedFrom? n false s = (keywordLed? s).map (shift n) := by
  rw [keywordLed?, ← keywordLedFrom?_add, Nat.zero_add]

theorem runToParenthesis?_eq_some {p : Char → Bool} {s run : List Char}
    (h : runToParenthesis? p s = some run) :
    (∃ rest, s = run ++ '(' :: rest) ∧ ∀ c ∈ run, p c = true := by
  unfold runToParenthesis? at h
  split at h
  · rename_i hhead
    obtain ⟨rest, hrest⟩ := List.head?_eq_some_iff.mp hhead
    rw [← Option.some.inj h]
    refine ⟨⟨rest, ?_⟩, fun c hc => List.mem_takeWhile_imp hc⟩
    rw [← hrest, List.takeWhile_append_dropWhile]
  · cases h

/-- A header that a keyword leads: the keyword, a run that starts with a gap, star or ampersand and
ends in the name, and the parenthesis. -/
theorem ofKeyword?_eq_some {n : Nat} {s : List Char} {h : Header} (hh : ofKeyword? n s = some h) :
    ∃ keyword c run rest, s = keyword ++ c :: run ++ '(' :: rest ∧ isKeyword keyword = true ∧
      (∀ d ∈ keyword, Text.isWord d = true) ∧ isTypeEnd c = true ∧
      (∀ d ∈ c :: run, (isTypePart d || isGap d) = true) ∧
      (NamedRun.ofRun (c :: run)).name ≠ [] ∧
      h = ⟨n, keyword ++ c :: run ++ ['('], (NamedRun.ofRun (c :: run)).name⟩ := by
  simp only [ofKeyword?, Option.bind_eq_bind] at hh
  split at hh
  · rename_i hlead
    rw [Bool.and_eq_true] at hlead
    obtain ⟨run, hrun, hh⟩ := Option.bind_eq_some_iff.mp hh
    obtain ⟨⟨rest, hrest⟩, hall⟩ := runToParenthesis?_eq_some hrun
    split at hh
    · rename_i hname
      rw [Bool.and_eq_true] at hname
      cases run with
      | nil =>
        have hend := hlead.2
        rw [hrest] at hend
        exact absurd (show isTypeEnd '(' = true from hend) (by decide)
      | cons c run =>
        refine ⟨s.takeWhile Text.isWord, c, run, rest, ?_, hlead.1,
          fun d hd => List.mem_takeWhile_imp hd, ?_, hall, by simpa using hname.1,
          (Option.some.inj hh).symm⟩
        · rw [List.append_assoc, ← hrest, List.takeWhile_append_dropWhile]
        · have hend := hlead.2
          rw [hrest] at hend
          exact hend
    · cases hh
  · cases hh

/-- A header that type words lead starts its line, and behind the gaps there stands a run that
ends in the name, and the parenthesis. -/
theorem ofLine?_eq_some {n : Nat} {line : List Char} {h : Header}
    (hh : ofLine? n line = some h) :
    ∃ run, runToParenthesis? (fun c => isQualifiedPart c || isGap c) (line.dropWhile isGap) =
        some run ∧ (NamedRun.ofRun run).name ≠ [] ∧ (NamedRun.ofRun run).lead ≠ [] ∧
      h = ⟨n, line.takeWhile isGap ++ run ++ ['('], (NamedRun.ofRun run).name⟩ := by
  simp only [ofLine?, Option.bind_eq_bind] at hh
  obtain ⟨run, hrun, hh⟩ := Option.bind_eq_some_iff.mp hh
  split at hh
  · rename_i hparts
    simp only [Bool.and_eq_true, Bool.not_eq_true', List.isEmpty_eq_false_iff,
      decide_eq_true_eq] at hparts
    obtain ⟨⟨⟨⟨hname, hlead⟩, -⟩, -⟩, -⟩ := hparts
    refine ⟨run, hrun, hname, fun hnil => ?_, (Option.some.inj hh).symm⟩
    rw [hnil, List.length_nil] at hlead
    omega
  · cases hh

theorem start_of_ofKeyword? {n : Nat} {s : List Char} {h : Header} (hh : ofKeyword? n s = some h) :
    h.start = n := by
  obtain ⟨_, _, _, _, _, _, _, _, _, _, rfl⟩ := ofKeyword?_eq_some hh
  rfl

theorem start_of_ofLine? {n : Nat} {line : List Char} {h : Header}
    (hh : ofLine? n line = some h) : h.start = n := by
  obtain ⟨_, _, _, _, rfl⟩ := ofLine?_eq_some hh
  rfl

theorem start_of_keywordLedFrom? {n : Nat} {inWord : Bool} {s : List Char} {h : Header}
    (hh : keywordLedFrom? n inWord s = some h) : n ≤ h.start ∧ h.start < n + s.length := by
  induction s generalizing n inWord with
  | nil => cases hh
  | cons c s ih =>
    rw [keywordLedFrom?_cons, Option.or_eq_some_iff] at hh
    rw [List.length_cons]
    rcases hh with hh | ⟨-, hh⟩
    · split at hh
      · cases hh
      · rw [start_of_ofKeyword? hh]; omega
    · have := ih hh
      omega

theorem start_of_typedFrom? {n : Nat} {ls : List (List Char)} {h : Header}
    (hh : typedFrom? n ls = some h) : n ≤ h.start := by
  induction ls generalizing n with
  | nil => cases hh
  | cons l ls ih =>
    rw [typedFrom?] at hh
    split at hh
    · rename_i hl
      rw [← Option.some.inj hh, start_of_ofLine? hl]
    · have := ih hh
      omega

/-- Only the first word of a text can lead a header that starts with it. -/
theorem ofKeyword?_of_start_eq {s : List Char} {h : Header} (hh : keywordLed? s = some h)
    (hstart : h.start = 0) : ofKeyword? 0 s = some h := by
  cases s with
  | nil => cases hh
  | cons c s =>
    rw [keywordLed?, keywordLedFrom?_cons, Option.or_eq_some_iff] at hh
    rcases hh with hh | ⟨-, hh⟩
    · exact hh
    · have := start_of_keywordLedFrom? hh
      omega

theorem runToParenthesis?_append {p : Char → Bool} {run : List Char}
    (hrun : ∀ c ∈ run, p c = true) (hp : p '(' = false) (rest : List Char) :
    runToParenthesis? p (run ++ '(' :: rest) = some run := by
  rw [runToParenthesis?, takeWhile_append_cons hp, dropWhile_append_cons hp,
    List.takeWhile_eq_self_iff.mpr hrun, List.dropWhile_eq_nil_iff.mpr hrun]
  rfl

/-- With a character that is no part of names in front there is something that leads to the name. -/
theorem lead_ofRun_cons_ne_nil {c : Char} (hc : Text.isWord c = false) {run : List Char}
    (hname : (NamedRun.ofRun (c :: run)).name ≠ []) : (NamedRun.ofRun (c :: run)).lead ≠ [] := by
  simp only [NamedRun.ofRun, List.reverse_cons, ne_eq, List.reverse_eq_nil_iff] at hname ⊢
  have hsuffix : (run.reverse ++ [c]).dropWhile isGap <:+ run.reverse ++ [c] :=
    List.dropWhile_suffix _
  cases hnamed : (run.reverse ++ [c]).dropWhile isGap with
  | nil =>
    rw [hnamed] at hname
    exact absurd rfl hname
  | cons d named =>
    rw [hnamed] at hsuffix
    have hlast : (d :: named).getLast (List.cons_ne_nil _ _) = c := by
      rw [hsuffix.getLast, List.getLast_concat]
    have hmem : c ∈ d :: named := hlast ▸ List.getLast_mem _
    rw [List.dropWhile_eq_nil_iff]
    intro hall
    rw [hall c hmem] at hc
    cases hc

/-- What stands in front of a run belongs to what leads to the name. -/
theorem ofRun_append (front : List Char) {run : List Char} (hlead : (NamedRun.ofRun run).lead ≠ []) :
    NamedRun.ofRun (front ++ run) = ⟨front ++ (NamedRun.ofRun run).lead,
      (NamedRun.ofRun run).name, (NamedRun.ofRun run).gap⟩ := by
  simp only [NamedRun.ofRun, ne_eq, List.reverse_eq_nil_iff] at hlead
  have hnamed : run.reverse.dropWhile isGap ≠ [] := fun h => hlead (by rw [h]; rfl)
  simp only [NamedRun.ofRun, List.reverse_append, Text.takeWhile_append_of_dropWhile hnamed,
    Text.dropWhile_append_of_dropWhile hnamed, Text.takeWhile_append_of_dropWhile hlead,
    Text.dropWhile_append_of_dropWhile hlead, List.reverse_reverse]

theorem isGap_of_isWord {c : Char} (h : Text.isWord c = true) : isGap c = false := by
  cases hg : isGap c with
  | false => rfl
  | true =>
    simp only [isGap, Bool.or_eq_true, beq_iff_eq] at hg
    rcases hg with rfl | rfl <;> exact absurd h (by decide)

theorem isWord_of_isTypeEnd {c : Char} (h : isTypeEnd c = true) : Text.isWord c = false := by
  simp only [isTypeEnd, isGap, Bool.or_eq_true, beq_iff_eq] at h
  rcases h with ((rfl | rfl) | rfl) | rfl <;> decide

/-- What may stand in a header that a keyword leads may stand in one that type words lead. -/
theorem isQualifiedPart_or_isGap {keyword run : List Char}
    (hkeyword : ∀ d ∈ keyword, Text.isWord d = true)
    (hrun : ∀ d ∈ run, (isTypePart d || isGap d) = true) :
    ∀ d ∈ keyword ++ run, (isQualifiedPart d || isGap d) = true := by
  intro d hd
  rcases List.mem_append.mp hd with hd | hd
  · simp [isQualifiedPart, isTypePart, hkeyword d hd]
  · have := hrun d hd
    simp only [isQualifiedPart, Bool.or_eq_true] at this ⊢
    tauto

/-- A header that a keyword leads from the start of a line is the header of the line, if the line
has one. -/
theorem eq_of_ofKeyword?_of_ofLine? {line : List Char} {k t : Header}
    (hk : ofKeyword? 0 line = some k) (ht : ofLine? 0 line = some t) : k = t := by
  obtain ⟨keyword, c, run, rest, rfl, hkeyword, hword, hend, hrun, hname, rfl⟩ :=
    ofKeyword?_eq_some hk
  obtain ⟨run', hrun', -, -, rfl⟩ := ofLine?_eq_some ht
  cases keyword with
  | nil => exact absurd hkeyword (by decide)
  | cons w keyword =>
    have hgap : ¬isGap w = true := by simp [isGap_of_isWord (hword w List.mem_cons_self)]
    have hall := isQualifiedPart_or_isGap hword hrun
    have hlead := lead_ofRun_cons_ne_nil (isWord_of_isTypeEnd hend) hname
    have hline : (w :: keyword ++ c :: run ++ '(' :: rest).takeWhile isGap = [] ∧
        (w :: keyword ++ c :: run ++ '(' :: rest).dropWhile isGap =
          w :: keyword ++ c :: run ++ '(' :: rest :=
      ⟨List.takeWhile_cons_of_neg hgap, List.dropWhile_cons_of_neg hgap⟩
    rw [hline.2, runToParenthesis?_append hall (by decide)] at hrun'
    rw [hline.1, ← Option.some.inj hrun', ofRun_append _ hlead]
    rfl

/-! ## The first line that declares -/

/-- The one that starts first; at the same place the first argument. -/
def earlier : Option Header → Option Header → Option Header
  | some k, some t => if t.start < k.start then some t else some k
  | some k, none => some k
  | none, t => t

theorem eq_some_of_earlier {k t : Option Header} {h : Header} (hh : earlier k t = some h) :
    k = some h ∨ t = some h := by
  unfold earlier at hh
  split at hh
  · split at hh
    · exact .inr hh
    · exact .inl hh
  · exact .inl hh
  · exact .inr hh

theorem first?_eq (code : List Char) : first? code = earlier (keywordLed? code) (typed? code) := by
  unfold first? earlier
  split <;> simp [*]

/-- A header of the first of some lines, or else of the others. -/
theorem keywordLedFrom?_joinLines_cons (n : Nat) (l : List Char) (ls : List (List Char)) :
    keywordLedFrom? n false (Text.joinLines (l :: ls)) =
      ((keywordLed? l).map (shift n)).or
        (keywordLedFrom? (n + l.length + 1) false (Text.joinLines ls)) := by
  cases ls with
  | nil => rw [Text.joinLines_singleton, keywordLedFrom?_zero_add]; exact (Option.or_none).symm
  | cons m ls =>
    rw [Text.joinLines_cons _ (List.cons_ne_nil _ _), keywordLedFrom?_append_cons (by decide),
      keywordLedFrom?_zero_add n l]

theorem typedFrom?_cons (n : Nat) (l : List Char) (ls : List (List Char)) :
    typedFrom? n (l :: ls) =
      ((ofLine? 0 l).map (shift n)).or (typedFrom? (n + l.length + 1) ls) := by
  rw [← ofLine?_add, Nat.zero_add, typedFrom?]
  split
  · rename_i h
    rw [h, Option.some_or]
  · rename_i h
    rw [h, Option.none_or]

/-- The header on a line, where that of the line itself comes first. -/
def onLine? (line : List Char) : Option Header := (ofLine? 0 line).or (keywordLed? line)

theorem start_of_onLine? {line : List Char} {h : Header} (hh : onLine? line = some h) :
    h.start ≤ line.length := by
  rcases Option.or_eq_some_iff.mp hh with hh | ⟨-, hh⟩
  · rw [start_of_ofLine? hh]
    exact Nat.zero_le _
  · have := start_of_keywordLedFrom? hh
    omega

/-- The header that starts first is one on the first line, if there is one, and starts in it. -/
theorem earlier_cons {n : Nat} {l : List Char} {ls : List (List Char)} :
    earlier (keywordLedFrom? n false (Text.joinLines (l :: ls))) (typedFrom? n (l :: ls)) =
      ((onLine? l).map (shift n)).or
        (earlier (keywordLedFrom? (n + l.length + 1) false (Text.joinLines ls))
          (typedFrom? (n + l.length + 1) ls)) := by
  rw [keywordLedFrom?_joinLines_cons, typedFrom?_cons, onLine?]
  cases ht : ofLine? 0 l with
  | some t =>
    have htn : (t.shift n).start = n := by rw [shift, start_of_ofLine? ht, Nat.zero_add]
    rw [Option.some_or, Option.map_some, Option.some_or, Option.some_or]
    cases hk : ((keywordLed? l).map (shift n)).or
        (keywordLedFrom? (n + l.length + 1) false (Text.joinLines ls)) with
    | none => rfl
    | some k =>
      rw [earlier, htn]
      split
      · rfl
      · rename_i hle
        rcases Option.or_eq_some_iff.mp hk with hk | ⟨-, hk⟩
        · -- a tie, in which both are the same header
          obtain ⟨k₀, hk₀, rfl⟩ := Option.map_eq_some_iff.mp hk
          have hstart : k₀.start = 0 := by simp only [shift] at hle; omega
          rw [eq_of_ofKeyword?_of_ofLine? (ofKeyword?_of_start_eq hk₀ hstart) ht]
        · have := start_of_keywordLedFrom? hk
          omega
  | none =>
    rw [Option.none_or, Option.map_none, Option.none_or]
    cases hk : keywordLed? l with
    | none => rfl
    | some k =>
      rw [Option.map_some, Option.some_or, Option.some_or]
      cases ht : typedFrom? (n + l.length + 1) ls with
      | none => rfl
      | some t =>
        have hk := start_of_keywordLedFrom? hk
        have ht := start_of_typedFrom? ht
        exact if_neg (by simp only [shift]; omega)

end Header

namespace Declaration

/-- The declaration that a header on line `i` makes. -/
def ofHeader (i : Nat) (h : Header) : Declaration := ⟨h.name, i, (h.name ++ ['(']).isSuffixOf h.text⟩

/-- The declaration on line `i`. -/
def onLine? (i : Nat) (line : List Char) : Option Declaration := (Header.onLine? line).map (ofHeader i)

theorem declaration_shift {front l rest : List Char} {h : Header} (hl : '\n' ∉ l)
    (hh : h.start ≤ l.length) :
    Header.declaration (front ++ (l ++ rest)) (h.shift front.length) =
      ofHeader (front.count '\n') h := by
  have hcount : (l.take h.start).count '\n' = 0 :=
    List.count_eq_zero.mpr fun hm => hl (List.mem_of_mem_take hm)
  rw [Header.declaration, ofHeader, Header.shift, Nat.add_comm, List.take_length_add_append,
    List.take_append_of_le_length hh, List.count_append, hcount]
  rfl

theorem map_earlier_joinLines (front : List Char) {ls : List (List Char)} (h : ∀ l ∈ ls, '\n' ∉ l) :
    (Header.earlier (Header.keywordLedFrom? front.length false (Text.joinLines ls))
        (Header.typedFrom? front.length ls)).map
      (Header.declaration (front ++ Text.joinLines ls)) =
      (ls.zipIdx (front.count '\n')).findSome? fun p => onLine? p.2 p.1 := by
  induction ls generalizing front with
  | nil => rfl
  | cons l ls ih =>
    obtain ⟨hl, hls⟩ := List.forall_mem_cons.mp h
    rw [Header.earlier_cons, List.zipIdx_cons, List.findSome?_cons]
    cases hh : Header.onLine? l with
    | some h =>
      obtain ⟨rest, hrest⟩ := Text.prefix_joinLines_cons l ls
      rw [onLine?, hh, Option.map_some, Option.map_some, Option.some_or, Option.map_some, ← hrest,
        declaration_shift hl (Header.start_of_onLine? hh)]
    | none =>
      rw [onLine?, hh, Option.map_none, Option.map_none, Option.none_or]
      cases ls with
      | nil => rfl
      | cons m ls =>
        have hfront := ih (front ++ (l ++ ['\n'])) hls
        simp only [List.length_append, List.length_singleton, List.count_append,
          List.count_eq_zero.mpr hl, List.count_singleton_self] at hfront
        rw [Text.joinLines_cons _ (List.cons_ne_nil _ _)]
        simpa [Nat.add_assoc] using hfront

/-- A text declares what the first of its lines declares that declares anything. -/
theorem find?_joinLines {ls : List (List Char)} (h : ∀ l ∈ ls, '\n' ∉ l) :
    find? (Text.joinLines ls) = ls.zipIdx.findSome? fun p => onLine? p.2 p.1 := by
  cases ls with
  | nil => rfl
  | cons l ls =>
    rw [find?, Header.first?_eq, Header.typed?, Text.joinLines,
      List.splitOn_intercalate _ h (List.cons_ne_nil _ _)]
    exact map_earlier_joinLines [] h

end Declaration

end GrowthScan
