import GrowthScan.Proofs.Text.Occurrences

/-!
# Runs of characters

A run is a nonempty text of one kind of characters. `afterRun?` takes as many of them as there
are, and nothing shorter would do where what follows begins with no character of the kind
(`IsRun.afterRun?_append`).

A text that neither begins nor ends with a blank is found in a text just if it is found in
the trimmed text (`exists_infix_trim`).
-/

namespace GrowthScan.Text

variable {p q : Char → Bool} {run rest r s t : List Char}

/-- A nonempty text of characters with the property. -/
def IsRun (p : Char → Bool) (run : List Char) : Prop := run ≠ [] ∧ ∀ c ∈ run, p c = true

theorem dropWhile_append_of_run (hrun : ∀ c ∈ run, p c = true)
    (hrest : ∀ c ∈ rest.head?, p c = false) : (run ++ rest).dropWhile p = rest := by
  rw [List.dropWhile_append_of_pos hrun]
  cases rest with
  | nil => rfl
  | cons c rest => rw [List.dropWhile_cons_of_neg (by simp [hrest c rfl])]

theorem trimStart_append_of_run (hrun : ∀ c ∈ run, isBlank c = true)
    (hrest : ∀ c ∈ rest.head?, isBlank c = false) : trimStart (run ++ rest) = rest :=
  dropWhile_append_of_run hrun hrest

theorem exists_run_trimStart (s : List Char) :
    ∃ run, (∀ c ∈ run, isBlank c = true) ∧ s = run ++ trimStart s :=
  ⟨s.takeWhile isBlank, fun _ hc => List.mem_takeWhile_imp hc, List.takeWhile_append_dropWhile.symm⟩

theorem isBlank_of_isWord {c : Char} (h : isWord c = true) : isBlank c = false := by
  rw [← Bool.not_eq_true]
  intro hblank
  rw [isWord_of_isBlank hblank] at h
  cases h

theorem forall_head?_cons {c : Char} (hc : p c = false) (s : List Char) :
    ∀ d ∈ (c :: s).head?, p d = false := by
  simpa using hc

/-- A run of one kind begins with no character of another. -/
theorem IsRun.head?_append (hrun : IsRun q run) (h : ∀ c, q c = true → p c = false)
    (rest : List Char) : ∀ c ∈ (run ++ rest).head?, p c = false := by
  obtain ⟨hne, hall⟩ := hrun
  obtain ⟨c, run, rfl⟩ := List.exists_cons_of_ne_nil hne
  exact forall_head?_cons (h c (hall c List.mem_cons_self)) (run ++ rest)

theorem IsRun.afterRun?_append (hrun : IsRun p run) (hrest : ∀ c ∈ rest.head?, p c = false) :
    afterRun? p (run ++ rest) = some rest := by
  obtain ⟨hne, hall⟩ := hrun
  obtain ⟨c, run, rfl⟩ := List.exists_cons_of_ne_nil hne
  obtain ⟨hc, hall⟩ := List.forall_mem_cons.mp hall
  rw [List.cons_append, afterRun?, if_pos hc, dropWhile_append_of_run hall hrest]

theorem exists_run_of_afterRun? (h : afterRun? p s = some r) :
    ∃ run, IsRun p run ∧ s = run ++ r := by
  cases s with
  | nil => cases h
  | cons c s =>
    rw [afterRun?] at h
    split at h
    · rename_i hc
      rw [Option.some.injEq] at h
      subst h
      refine ⟨c :: s.takeWhile p, ⟨List.cons_ne_nil _ _, ?_⟩, ?_⟩
      · exact List.forall_mem_cons.mpr ⟨hc, fun _ hd => List.mem_takeWhile_imp hd⟩
      · rw [List.cons_append, List.takeWhile_append_dropWhile]
    · cases h

/-! ## Blanks around a text -/

/-- The text begins and ends with a character that is no blank. -/
structure IsTrimmed (t : List Char) : Prop where
  first : ∃ c r, t = c :: r ∧ isBlank c = false
  last : ∃ r c, t = r ++ [c] ∧ isBlank c = false

theorem IsTrimmed.infix_cons_iff (ht : IsTrimmed t) {c : Char} (hc : isBlank c = true) :
    t <:+: c :: s ↔ t <:+: s := by
  obtain ⟨d, r, rfl, hd⟩ := ht.first
  have hne : d ≠ c := ne_of_apply_ne isBlank (by rw [hd, hc]; decide)
  simp [List.infix_cons_iff, List.cons_prefix_cons, hne]

theorem IsTrimmed.infix_concat_iff (ht : IsTrimmed t) {c : Char} (hc : isBlank c = true) :
    t <:+: s ++ [c] ↔ t <:+: s := by
  obtain ⟨r, d, rfl, hd⟩ := ht.last
  have hne : d ≠ c := ne_of_apply_ne isBlank (by rw [hd, hc]; decide)
  simp [List.infix_concat_iff, List.suffix_concat_iff, hne]

/-- Trimming takes nothing from the texts that are found and have no blank at either end. -/
theorem exists_infix_trim {P : List Char → Prop} (hP : ∀ t, P t → IsTrimmed t) (s : List Char) :
    (∃ t, P t ∧ t <:+: trim s) ↔ ∃ t, P t ∧ t <:+: s := by
  refine iff_of_eq (apply_trim (f := fun s => ∃ t, P t ∧ t <:+: s) ?_ ?_ s)
  · intro c s hc
    exact propext (exists_congr fun t => and_congr_right fun ht => (hP t ht).infix_cons_iff hc)
  · intro c s hc
    exact propext (exists_congr fun t => and_congr_right fun ht => (hP t ht).infix_concat_iff hc)

end GrowthScan.Text
