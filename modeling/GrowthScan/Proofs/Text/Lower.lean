import GrowthScan.Proofs.Text.Case

/-!
# Lower-casing twice

The characters that lower-casing changes come in runs, the `capitalRuns`. What a run maps to lies
apart from every run, so that a text in lower case has no capital left (`isLower_of_mem_lower`) and
lower-casing it again changes nothing (`lower_lower`). No run maps to a blank either, so that
lower-casing keeps a word a word (`not_isBlank_of_mem_lower`).
-/

namespace GrowthScan.Text

/-! ## Capitals -/

/-- Whether no target of `r` is a character that `q` maps. The targets lie beside the run, or `q`
maps every second character and they are among the others. -/
def CaseRun.isApart (r q : CaseRun) : Bool :=
  Nat.blt q.last r.target || Nat.blt (r.target + (r.last - r.first)) q.first ||
    (q.step == 2 && (r.step == 2 || r.first == r.last) && r.target % 2 != q.first % 2)

theorem CaseRun.covers_iff {r : CaseRun} {n : Nat} :
    r.covers n = true ↔ r.first ≤ n ∧ n ≤ r.last ∧ (n - r.first) % r.step = 0 := by
  simp [covers, and_assoc]

theorem CaseRun.not_covers_of_isApart {r q : CaseRun} (h : r.isApart q = true) {n : Nat}
    (hn : r.covers n = true) : q.covers (r.target + (n - r.first)) = false := by
  obtain ⟨hfirst, hlast, hstep⟩ := covers_iff.mp hn
  simp only [isApart, Bool.or_eq_true, Bool.and_eq_true, Nat.blt_eq, beq_iff_eq, bne_iff_ne] at h
  rw [← Bool.not_eq_true, covers_iff]
  rintro ⟨hle, hge, hmod⟩
  rcases h with (h | h) | ⟨⟨hq, hr | hr⟩, hparity⟩
  · omega
  · omega
  -- The targets of `r` all have the parity of the first, which is not that of the run `q`.
  · rw [hq] at hmod
    rw [hr] at hstep
    omega
  · rw [hq] at hmod
    omega

/-- The runs of all characters that lower-casing changes: the capitals of ASCII, the dotted I, and
those beyond ASCII that become one character. -/
def capitalRuns : List CaseRun := ⟨0x41, 0x5A, 1, 0x61⟩ :: ⟨0x130, 0x130, 1, 0x69⟩ :: lowerRuns

/-- Whether lower-casing leaves the character as it is, wherever it stands. -/
def IsLower (c : Char) : Prop := ∀ r ∈ capitalRuns, r.covers c.toNat = false

instance : DecidablePred IsLower := fun c =>
  inferInstanceAs (Decidable (∀ r ∈ capitalRuns, r.covers c.toNat = false))

theorem isApart_of_mem_capitalRuns :
    ∀ r ∈ capitalRuns, ∀ q ∈ capitalRuns, r.isApart q = true := by
  -- As one Boolean, which the kernel evaluates: the instance for the quantifiers takes twice as long.
  have h : (capitalRuns.all fun r => capitalRuns.all r.isApart) = true := by decide +kernel
  simpa only [List.all_eq_true] using h

/-- The last target of a run is a code point of a character, on the same side of the gap among them
as the first. -/
theorem isValidChar_of_mem_capitalRuns :
    ∀ r ∈ capitalRuns, r.target + (r.last - r.first) < 0xD800 ∨
      0xDFFF < r.target ∧ r.target + (r.last - r.first) < 0x110000 := by
  decide +kernel

theorem not_mem_blankPoints_of_mem_capitalRuns :
    ∀ r ∈ capitalRuns, ∀ n ∈ blankPoints, n < r.target ∨ r.target + (r.last - r.first) < n := by
  decide +kernel

theorem toNat_ofNat {n : Nat} (h : n.isValidChar) : (Char.ofNat n).toNat = n := by
  rw [Char.ofNat, dif_pos h]
  rfl

theorem CaseRun.toNat_target {r : CaseRun} (hr : r ∈ capitalRuns) {n : Nat}
    (hn : r.covers n = true) :
    (Char.ofNat (r.target + (n - r.first))).toNat = r.target + (n - r.first) := by
  have hvalid := isValidChar_of_mem_capitalRuns r hr
  rw [covers_iff] at hn
  apply toNat_ofNat
  rw [Nat.isValidChar]
  omega

theorem IsLower.ne_sigma {c : Char} (h : IsLower c) : c ≠ 'Σ' := by
  rintro rfl
  revert h
  decide +kernel

/-! ## One character -/

theorem isLower_of_toNat_lt {c : Char} (h : c.toNat < 0x80)
    (hcapital : ¬(0x41 ≤ c.toNat ∧ c.toNat ≤ 0x5A)) : IsLower c := by
  have hbeyond : ∀ r ∈ capitalRuns.tail, 0x80 ≤ r.first := by decide +kernel
  intro r hr
  rw [← Bool.not_eq_true, CaseRun.covers_iff]
  rcases List.mem_cons.mp hr with rfl | hr
  · dsimp only
    omega
  · have := hbeyond r hr
    omega

theorem toLower_eq_ofNat {c : Char} (h : c.toNat < 0x80) :
    c.toLower =
      if 0x41 ≤ c.toNat ∧ c.toNat ≤ 0x5A then Char.ofNat (0x61 + (c.toNat - 0x41)) else c := by
  have hall : ∀ n < 0x80, (Char.ofNat n).toLower =
      if 0x41 ≤ n ∧ n ≤ 0x5A then Char.ofNat (0x61 + (n - 0x41)) else Char.ofNat n := by
    decide +kernel
  have hc := hall c.toNat h
  rwa [Char.ofNat_toNat] at hc

theorem isLower_of_find?_eq_none {c : Char} (hascii : ¬c.toNat < 0x80) (hdotted : c ≠ '\u0130')
    (hnone : lowerRuns.find? (·.covers c.toNat) = none) : IsLower c := by
  have hpoint : c.toNat ≠ 0x130 := by
    intro hpoint
    rw [← Char.ofNat_toNat c, hpoint] at hdotted
    exact hdotted rfl
  intro r hr
  rw [← Bool.not_eq_true]
  rcases List.mem_cons.mp hr with rfl | hr
  · simp only [CaseRun.covers_iff]
    omega
  · rcases List.mem_cons.mp hr with rfl | hr
    · simp only [CaseRun.covers_iff]
      omega
    · exact List.find?_eq_none.mp hnone r hr

/-- A character that is no capital stays, the dotted I keeps a dot, and every other capital becomes
the target of its run. -/
theorem lowerChar_cases (c : Char) :
    IsLower c ∧ lowerChar c = [c] ∨
      ¬IsLower c ∧ lowerChar c = ['i', '\u0307'] ∨
      ∃ r ∈ capitalRuns, r.covers c.toNat = true ∧
        lowerChar c = [Char.ofNat (r.target + (c.toNat - r.first))] := by
  unfold lowerChar
  split
  · rename_i hascii
    rw [toLower_eq_ofNat hascii]
    split
    · rename_i hcapital
      refine .inr (.inr ⟨⟨0x41, 0x5A, 1, 0x61⟩, List.mem_cons_self, ?_, rfl⟩)
      exact CaseRun.covers_iff.mpr ⟨hcapital.1, hcapital.2, Nat.mod_one _⟩
    · rename_i hcapital
      exact .inl ⟨isLower_of_toNat_lt hascii hcapital, rfl⟩
  · rename_i hascii
    split
    · rename_i hdotted
      rw [beq_iff_eq] at hdotted
      subst hdotted
      exact .inr (.inl ⟨by decide +kernel, rfl⟩)
    · rename_i hdotted
      split
      · rename_i r hr
        have hmem : r ∈ capitalRuns :=
          List.mem_cons_of_mem _ (List.mem_cons_of_mem _ (List.mem_of_find?_eq_some hr))
        have hcovers := List.find?_some hr
        exact .inr (.inr ⟨r, hmem, hcovers, rfl⟩)
      · rename_i hnone
        exact .inl ⟨isLower_of_find?_eq_none hascii (by simpa using hdotted) hnone, rfl⟩

theorem lowerChar_of_isLower {c : Char} (h : IsLower c) : lowerChar c = [c] := by
  rcases lowerChar_cases c with ⟨-, hc⟩ | ⟨hcapital, -⟩ | ⟨r, hr, hcovers, -⟩
  · exact hc
  · exact absurd h hcapital
  · rw [h r hr] at hcovers
    cases hcovers

theorem lowerChar_ne_nil (c : Char) : lowerChar c ≠ [] := by
  rcases lowerChar_cases c with ⟨-, hc⟩ | ⟨-, hc⟩ | ⟨r, -, -, hc⟩ <;> rw [hc] <;>
    exact List.cons_ne_nil _ _

theorem isLower_of_mem_lowerChar {c d : Char} (h : d ∈ lowerChar c) : IsLower d := by
  rcases lowerChar_cases c with ⟨hlower, hc⟩ | ⟨-, hc⟩ | ⟨r, hr, hcovers, hc⟩ <;> rw [hc] at h
  · rwa [List.mem_singleton.mp h]
  · rcases List.mem_pair.mp h with rfl | rfl <;> decide +kernel
  · rw [List.mem_singleton.mp h]
    intro q hq
    rw [CaseRun.toNat_target hr hcovers]
    exact CaseRun.not_covers_of_isApart (isApart_of_mem_capitalRuns r hr q hq) hcovers

theorem not_isBlank_of_mem_lowerChar {c d : Char} (hblank : isBlank c = false)
    (h : d ∈ lowerChar c) : isBlank d = false := by
  rcases lowerChar_cases c with ⟨-, hc⟩ | ⟨-, hc⟩ | ⟨r, hr, hcovers, hc⟩ <;> rw [hc] at h
  · rwa [List.mem_singleton.mp h]
  · rcases List.mem_pair.mp h with rfl | rfl <;> decide
  · rw [List.mem_singleton.mp h, ← Bool.not_eq_true]
    intro htarget
    have hpoint := toNat_mem_blankPoints htarget
    rw [CaseRun.toNat_target hr hcovers] at hpoint
    have hoff := not_mem_blankPoints_of_mem_capitalRuns r hr _ hpoint
    rw [CaseRun.covers_iff] at hcovers
    omega

/-! ## Texts -/

/-- A character of a text in lower case comes from a character of the text; a capital sigma has two
forms. -/
theorem mem_lower {s : List Char} {d : Char} (h : d ∈ lower s) :
    (∃ c ∈ s, d ∈ lowerChar c) ∨ d = 'ς' ∨ d = 'σ' := by
  -- The form of a sigma depends on the text before it, so the induction is for every such text.
  suffices hafter : ∀ before, d ∈ lowerAfter before s →
      (∃ c ∈ s, d ∈ lowerChar c) ∨ d = 'ς' ∨ d = 'σ' from hafter [] h
  clear h
  induction s with
  | nil =>
    intro before h
    cases h
  | cons c s ih =>
    intro before h
    rw [lowerAfter, List.mem_append] at h
    rcases h with h | h
    · split at h
      · rw [List.mem_singleton] at h
        split at h
        · exact .inr (.inl h)
        · exact .inr (.inr h)
      · exact .inl ⟨c, List.mem_cons_self, h⟩
    · rcases ih _ h with ⟨e, he, hd⟩ | h
      · exact .inl ⟨e, List.mem_cons_of_mem _ he, hd⟩
      · exact .inr h

theorem isLower_of_mem_lower {s : List Char} {d : Char} (h : d ∈ lower s) : IsLower d := by
  rcases mem_lower h with ⟨c, -, hd⟩ | rfl | rfl
  · exact isLower_of_mem_lowerChar hd
  · decide +kernel
  · decide +kernel

theorem not_isBlank_of_mem_lower {s : List Char} (hs : ∀ c ∈ s, isBlank c = false) {d : Char}
    (h : d ∈ lower s) : isBlank d = false := by
  rcases mem_lower h with ⟨c, hc, hd⟩ | rfl | rfl
  · exact not_isBlank_of_mem_lowerChar (hs c hc) hd
  · decide
  · decide

theorem lower_of_forall_isLower {s : List Char} (h : ∀ c ∈ s, IsLower c) : lower s = s := by
  suffices hafter : ∀ before, lowerAfter before s = s from hafter []
  induction s with
  | nil => exact fun _ => rfl
  | cons c s ih =>
    intro before
    obtain ⟨hc, hs⟩ := List.forall_mem_cons.mp h
    rw [lowerAfter, if_neg (by simpa using hc.ne_sigma), lowerChar_of_isLower hc, ih hs]
    rfl

/-- A text in lower case stays as it is. -/
theorem lower_lower (s : List Char) : lower (lower s) = lower s :=
  lower_of_forall_isLower fun _ => isLower_of_mem_lower

theorem lower_ne_nil {s : List Char} (h : s ≠ []) : lower s ≠ [] := by
  cases s with
  | nil => exact absurd rfl h
  | cons c s =>
    rw [lower, lowerAfter]
    refine List.append_ne_nil_of_left_ne_nil ?_ _
    split
    · exact List.cons_ne_nil _ _
    · exact lowerChar_ne_nil c

end GrowthScan.Text
