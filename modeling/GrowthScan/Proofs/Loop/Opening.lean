import GrowthScan.Loop
import GrowthScan.Proofs.Text.InOrder
import GrowthScan.Proofs.Text.Runs

/-!
# Which lines open a loop

A loop header is a text of one of three shapes (`Loop.headers`). The search for one tries each
end of a line, and takes each run of blanks and each name as long as it is and each mark
at its first place. It misses nothing by that: a line opens a loop just if a header
is found in it (`Loop.isOpening_iff`).

Headers have no blank at either end, so that trimming takes none of them away, and text
around a line can only add some (`Loop.isOpening_iff_headers`).
-/

namespace GrowthScan

open Text (IsRun IsTrimmed gap isBlank isWord spaced)

namespace Loop

/-- The texts of a word and a parenthesis behind it, blanks between them, with the marks in order
behind the parenthesis, all of them on its line. -/
def parenthesised (word : String) (marks : List (List Char)) : Set (List Char) :=
  {t | ∃ blanks, (∀ c ∈ blanks, isBlank c = true) ∧
    ∃ inside ∈ spaced (['('] :: marks), t = word.toList ++ (blanks ++ inside)}

/-- The texts of loops over a range: a name between the two words, and at least one blank between
any two parts. -/
def ranged : Set (List Char) :=
  {t | ∃ b₁ name b₂ b₃, IsRun isBlank b₁ ∧ IsRun isWord name ∧ IsRun isBlank b₂ ∧ IsRun isBlank b₃ ∧
    t = "for".toList ++ (b₁ ++ (name ++ (b₂ ++ ("in".toList ++ (b₃ ++ "range(".toList)))))}

/-- The texts of loop headers: three clauses with a comparison in the middle one, a condition in
parentheses, or a range. -/
def headers : Set (List Char) :=
  parenthesised "for" [[';'], ['<'], [';'], [')']] ∪ parenthesised "while" [[')']] ∪ ranged

variable {word : String} {marks : List (List Char)} {s t line : List Char}

/-! ## Headers at the front of a text -/

/-- The longest run of blanks behind the word is the only one that the parenthesis can follow. -/
theorem any_parenthesised_iff (hne : marks ≠ []) (hmarks : ∀ m ∈ marks, m ∈ gap) :
    (((Text.after? word.toList s).bind fun s => Text.after? ['('] (Text.trimStart s)).any fun s =>
      Text.inOrder marks (Text.firstLine s)) = true ↔ ∃ t ∈ parenthesised word marks, t <+: s := by
  simp only [Option.any_eq_true, Option.bind_eq_some_iff, Text.inOrder_iff]
  constructor
  · rintro ⟨r, ⟨behind, hword, hr⟩, horder⟩
    obtain ⟨inside, hinside, after, hafter⟩ :=
      (Text.exists_spaced_prefix_iff hne hmarks _).mpr ⟨r, hr, horder⟩
    obtain ⟨blanks, hblanks, hbehind⟩ := Text.exists_run_trimStart behind
    refine ⟨_, ⟨blanks, hblanks, inside, hinside, rfl⟩, after, ?_⟩
    rw [Text.after?_eq_some_iff.mp hword, hbehind, ← hafter]
    simp only [List.append_assoc]
  · rintro ⟨_, ⟨blanks, hblanks, inside, hinside, rfl⟩, after, rfl⟩
    obtain ⟨r, hr, horder⟩ :=
      (Text.exists_spaced_prefix_iff hne hmarks _).mp ⟨inside, hinside, after, rfl⟩
    have hhead : ∀ c ∈ (inside ++ after).head?, isBlank c = false := by
      obtain ⟨rest, rfl⟩ := Text.prefix_of_mem_spaced hinside
      exact Text.forall_head?_cons (c := '(') (by decide) (rest ++ after)
    refine ⟨r, ⟨blanks ++ (inside ++ after), ?_, ?_⟩, horder⟩
    · rw [Text.after?_eq_some_iff]
      simp only [List.append_assoc]
    · rw [Text.trimStart_append_of_run hblanks hhead]
      exact hr

theorem startsCounted_iff :
    startsCounted s = true ↔ ∃ t ∈ parenthesised "for" [[';'], ['<'], [';'], [')']], t <+: s := by
  refine any_parenthesised_iff (List.cons_ne_nil _ _) ?_
  show ∀ m ∈ [[';'], ['<'], [';'], [')']], '\n' ∉ m
  decide

theorem startsConditional_iff :
    startsConditional s = true ↔ ∃ t ∈ parenthesised "while" [[')']], t <+: s := by
  refine any_parenthesised_iff (List.cons_ne_nil _ _) ?_
  show ∀ m ∈ [[')']], '\n' ∉ m
  decide

/-- Blanks and words are of different characters, so that each run ends where the next begins. -/
theorem isSome_afterRanged?_iff : (afterRanged? s).isSome = true ↔ ∃ t ∈ ranged, t <+: s := by
  constructor
  · intro h
    obtain ⟨r, hr⟩ := Option.isSome_iff_exists.mp h
    simp only [afterRanged?, Option.bind_eq_bind, Option.bind_eq_some_iff,
      Text.after?_eq_some_iff] at hr
    obtain ⟨_, rfl, _, h₁, _, h₂, _, h₃, _, rfl, _, h₄, rfl⟩ := hr
    obtain ⟨b₁, hb₁, rfl⟩ := Text.exists_run_of_afterRun? h₁
    obtain ⟨name, hname, rfl⟩ := Text.exists_run_of_afterRun? h₂
    obtain ⟨b₂, hb₂, rfl⟩ := Text.exists_run_of_afterRun? h₃
    obtain ⟨b₃, hb₃, rfl⟩ := Text.exists_run_of_afterRun? h₄
    exact ⟨_, ⟨b₁, name, b₂, b₃, hb₁, hname, hb₂, hb₃, rfl⟩, r, by simp only [List.append_assoc]⟩
  · -- each step takes its part whole, since the next part begins with a character of another kind
    rintro ⟨_, ⟨b₁, name, b₂, b₃, hb₁, hname, hb₂, hb₃, rfl⟩, r, rfl⟩
    have hafter (w r : List Char) : Text.after? w (w ++ r) = some r :=
      Text.after?_eq_some_iff.mpr rfl
    have hin (r : List Char) : ∀ c ∈ ("in".toList ++ r).head?, isBlank c = false :=
      Text.forall_head?_cons (c := 'i') (by decide) ('n' :: r)
    have hrange (r : List Char) : ∀ c ∈ ("range(".toList ++ r).head?, isBlank c = false :=
      Text.forall_head?_cons (c := 'r') (by decide) ("ange(".toList ++ r)
    have hnext := hname.head?_append fun c => Text.isBlank_of_isWord
    have hbehind := hb₂.head?_append fun c => Text.isWord_of_isBlank
    simp only [afterRanged?, Option.bind_eq_bind, List.append_assoc, hafter, Option.bind_some,
      hb₁.afterRun?_append (hnext _), hname.afterRun?_append (hbehind _),
      hb₂.afterRun?_append (hin _), hb₃.afterRun?_append (hrange _), Option.isSome_some]

theorem starts_iff : starts s = true ↔ ∃ t ∈ headers, t <+: s := by
  simp only [starts, Bool.or_eq_true, startsCounted_iff, startsConditional_iff,
    isSome_afterRanged?_iff, headers, Set.mem_union, or_and_right, exists_or]

/-! ## Headers anywhere in a line -/

theorem isOpening_iff : isOpening line = true ↔ ∃ t ∈ headers, t <:+: line := by
  have hstarts (s : List Char) :
      (if starts s = true then some () else none).isSome = true ↔ starts s = true := by
    split <;> simp [*]
  simp only [isOpening, Text.firstSome_isSome_iff, hstarts, starts_iff,
    List.infix_iff_prefix_suffix]
  constructor
  · rintro ⟨s, hs, t, ht, hts⟩
    exact ⟨t, ht, s, hts, hs⟩
  · rintro ⟨t, ht, s, hts, hs⟩
    exact ⟨s, hs, t, ht, hts⟩

theorem isTrimmed_of_mem_parenthesised (marks : List (List Char))
    (hword : ∃ c r, word.toList = c :: r ∧ isBlank c = false)
    (ht : t ∈ parenthesised word (marks ++ [[')']])) : IsTrimmed t := by
  obtain ⟨blanks, -, inside, hinside, rfl⟩ := ht
  obtain ⟨c, r, hword, hc⟩ := hword
  have hinside : inside ∈ spaced ((['('] :: marks) ++ [[')']]) := hinside
  obtain ⟨front, rfl⟩ := Text.suffix_of_mem_spaced hinside
  exact ⟨⟨c, _, by rw [hword]; rfl, hc⟩,
    ⟨word.toList ++ (blanks ++ front), ')', by simp only [List.append_assoc], by decide⟩⟩

theorem isTrimmed_of_mem_headers (ht : t ∈ headers) : IsTrimmed t := by
  rcases ht with (hcounted | hconditional) | ⟨b₁, name, b₂, b₃, -, -, -, -, rfl⟩
  · exact isTrimmed_of_mem_parenthesised [[';'], ['<'], [';']] ⟨'f', _, rfl, by decide⟩ hcounted
  · exact isTrimmed_of_mem_parenthesised [] ⟨'w', _, rfl, by decide⟩ hconditional
  · refine ⟨⟨'f', _, rfl, by decide⟩,
      ⟨"for".toList ++ (b₁ ++ (name ++ (b₂ ++ ("in".toList ++ (b₃ ++ "range".toList))))), '(', ?_,
        by decide⟩⟩
    simp only [List.append_assoc]
    rfl

/-- A line opens a loop just if a loop header is found in it. Trimming it takes no header away
and adds none, and more text before and behind it takes none away. -/
theorem isOpening_iff_headers (line : List Char) :
    (isOpening line = true ↔ ∃ t ∈ headers, t <:+: line) ∧
      isOpening (Text.trim line) = isOpening line ∧
      ∀ before behind, isOpening line = true → isOpening (before ++ line ++ behind) = true := by
  refine ⟨isOpening_iff, ?_, fun before behind h => ?_⟩
  · rw [Bool.eq_iff_iff, isOpening_iff, isOpening_iff]
    exact Text.exists_infix_trim (fun t ht => isTrimmed_of_mem_headers ht) line
  · rw [isOpening_iff] at h ⊢
    obtain ⟨t, ht, htl⟩ := h
    exact ⟨t, ht, htl.trans ⟨before, behind, rfl⟩⟩

/-- The first word is no header's, and the header breaks the line in front of its parenthesis. -/
theorem isOpening_iff_headers_broken :
    isOpening " for (a; b) for \n(i = f(0); i < n; i++) ".toList = true ∧
      isOpening ("if (x)".toList ++ " for (a; b) for \n(i = f(0); i < n; i++) ".toList ++
        "\n".toList) = true :=
  ⟨by decide +kernel, (isOpening_iff_headers _).2.2 _ _ (by decide +kernel)⟩

/-- No name, no comparison, and a parenthesis that closes on the next line. -/
example :
    ["for in range(n)", "for (i = n; i > 0; i--)", "while (x\n)"].map (isOpening ·.toList) =
      [false, false, false] := by
  decide +kernel

end Loop

end GrowthScan
