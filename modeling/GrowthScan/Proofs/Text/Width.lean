import GrowthScan.Text.Width
import Mathlib.Algebra.Order.Ring.Int

/-!
# Bounds on the columns of a text

A character may take columns back from what follows it, or add more than it takes by itself.
What it may take back was added before (`owed`), and what it may add beyond its own
columns was left out before (`spare`). So no part of a text takes less than nothing
(`owed_nonneg`, `owed_le_measure`), and a text of characters that each take one column at
most has at most as many columns as characters (`plainWidth_le_length`).

A separator, such as a space, is one column and has no part in any sign. So the columns on its two
sides add up (`plainWidth_append_cons`).
-/

namespace GrowthScan.Text

/-! ## One character -/

/-- The columns that the characters in front may take back. -/
def owed : Follower → Int
  | .joinedFlag true _ | .ligature .khmer _ | .ligature .tifinaghJoiner _ => 1
  | _ => 0

/-- The columns that the characters in front may add beyond their own. -/
def spare (f : Following) : Int :=
  (if f.selector = .asPicture then 1 else 0) +
    match f.follower with
    | .joinedFlag false _ => 2
    | _ => 0

/-- The step from `f` adds its columns within the bounds, for a character of `k` columns. -/
structure Fits (k : Int) (f : Following) (step : Int × Following) : Prop where
  owed_le : owed step.2.follower ≤ owed f.follower + step.1
  spare_le : step.1 + spare step.2 ≤ spare f + k

variable {c : Char} {k : Int} {f : Following}

theorem owed_nonneg (f : Follower) : 0 ≤ owed f := by
  unfold owed
  split <;> decide

theorem spare_nonneg (f : Following) : 0 ≤ spare f := by
  unfold spare
  split <;> split <;> decide

theorem spare_none_le (f : Following) : spare ⟨.none, f.follower⟩ ≤ spare f := by
  obtain ⟨selector, follower⟩ := f
  cases selector <;> simp [spare]

/-- Whether the step takes nothing back, and leaves room in front only where it adds no column. -/
def IsBounded (step : Int × Following) : Prop :=
  owed step.2.follower ≤ step.1 ∧ step.1 + spare step.2 ≤ max 1 step.1

instance : DecidablePred IsBounded := fun _ => inferInstanceAs (Decidable (_ ∧ _))

theorem isBounded_ite {p : Prop} [Decidable p] {step step' : Int × Following}
    (h : IsBounded step) (h' : IsBounded step') : IsBounded (if p then step else step') := by
  split <;> assumption

theorem isBounded_alone (c : Char) : IsBounded (alone c) := by
  unfold alone
  refine isBounded_ite ?_ (isBounded_ite (by decide) (isBounded_ite (by decide)
    (isBounded_ite (by decide) (isBounded_ite (by decide) (isBounded_ite (by decide) ?_)))))
  · split <;> decide
  · split
    · rename_i l _
      cases l <;> decide
    · split
      · decide
      · split
        · decide
        · split <;> decide

/-- A character by itself fits, whatever follows. -/
theorem fits_alone (c : Char) (f : Following) : Fits (max 1 (alone c).1) f (alone c) := by
  have howed := owed_nonneg f.follower
  have hspare := spare_nonneg f
  obtain ⟨hle, hle'⟩ := isBounded_alone c
  exact ⟨by omega, by omega⟩

theorem fits_inPicture? {follower : Follower} {step : Int × Follower}
    (h : inPicture? c follower = some step) :
    Fits 1 ⟨.none, follower⟩ (step.1, ⟨.none, step.2⟩) := by
  unfold inPicture? at h
  cases follower with
  | other | lineFeed | joinedKeycap | ligature => cases h
  | picture | skinTone | flagLetter | flagLetters | joined | joinedTags =>
    dsimp only at h
    split_ifs at h <;> cases h <;> exact ⟨by simp [owed], by simp [spare]⟩
  | joinedFlag single =>
    -- a letter without a partner takes back what the first one added
    dsimp only at h
    cases single <;> simp only [Bool.false_eq_true, ↓reduceIte] at h <;> split_ifs at h <;>
      cases h <;> exact ⟨by simp [owed], by simp [spare]⟩

theorem fits_inLigature? {l : Ligature} {joiner : Bool} {step : Int × Following}
    (h : inLigature? c l joiner = some step) : Fits 1 ⟨.none, .ligature l joiner⟩ step := by
  unfold inLigature? at h
  cases l <;> dsimp only at h <;> split_ifs at h <;> cases h <;>
    exact ⟨by simp [owed, Following.nothing], by simp [spare, Following.nothing]⟩

/-- A selector that does not apply leaves nothing behind that counts. -/
theorem Fits.of_withoutSelector {step : Int × Following} (h : Fits k f.withoutSelector step) :
    Fits k f step := by
  suffices hle : owed f.withoutSelector.follower ≤ owed f.follower ∧
      spare f.withoutSelector ≤ spare f from
    ⟨h.owed_le.trans (by have := hle.1; omega), h.spare_le.trans (by have := hle.2; omega)⟩
  have howed := owed_nonneg f.follower
  have hspare := spare_nonneg f
  unfold Following.withoutSelector
  split
  · exact ⟨le_refl _, le_refl _⟩
  · split
    · exact ⟨le_refl _, spare_none_le f⟩
    · exact ⟨howed, hspare⟩

theorem Fits.mono {m : Int} {step : Int × Following} (h : Fits k f step) (hk : k ≤ m) :
    Fits m f step :=
  ⟨h.owed_le, h.spare_le.trans (by omega)⟩

/-- No columns, and nothing that counts, always fit. -/
theorem fits_zero {next : Following} (howed : owed next.follower ≤ owed f.follower)
    (hspare : spare next ≤ spare f + k) : Fits k f (0, next) :=
  ⟨by simpa using howed, by simpa using hspare⟩

theorem owed_asPicture_le (f : Following) : owed f.asPicture.follower ≤ owed f.follower := by
  have howed := owed_nonneg f.follower
  unfold Following.asPicture
  split
  all_goals first | exact le_refl _ | exact howed

theorem owed_asText_le (f : Following) : owed f.asText.follower ≤ owed f.follower := by
  have howed := owed_nonneg f.follower
  unfold Following.asText
  split
  · exact le_refl _
  · exact howed

theorem spare_asPicture (f : Following) : spare f.asPicture = 1 := by
  unfold Following.asPicture
  split <;> simp_all [spare]

theorem spare_asText (f : Following) : spare f.asText = 0 := by
  unfold Following.asText
  split <;> simp_all [spare]

theorem selector_withoutSelector (f : Following) : f.withoutSelector.selector = .none := by
  unfold Following.withoutSelector
  split_ifs <;> first | assumption | rfl

/-- The selector behind a character left room for a picture. -/
theorem fits_of_asPicture (h : f.selector = .asPicture) {n : Int} (hn : 0 ≤ n) (hn' : n ≤ 2) :
    Fits 1 f (n, ⟨.none, .picture⟩) := by
  have howed := owed_nonneg f.follower
  have hspare : 1 ≤ spare f := by
    rw [spare, if_pos h]
    split <;> decide
  have hnext : owed .picture = 0 := rfl
  have hnext' : spare ⟨.none, .picture⟩ = 0 := rfl
  exact ⟨by dsimp only; omega, by dsimp only; omega⟩

theorem fits_beforeLigature (c : Char) (l : Ligature) (joiner : Bool) :
    Fits (max 1 (alone c).1) ⟨.none, .ligature l joiner⟩
      (if c = '\u200D' then (0, ⟨.none, .ligature l true⟩)
      else if isIgnorableMark c then (0, ⟨.none, .ligature l joiner⟩)
      else (inLigature? c l joiner).getD (alone c)) := by
  have hone : 1 ≤ max 1 (alone c).1 := le_max_left _ _
  have hspare : ∀ joiner, spare ⟨.none, .ligature l joiner⟩ = 0 := fun _ => rfl
  split
  · exact fits_zero (by cases l <;> exact le_refl _) (by rw [hspare, hspare]; omega)
  split
  · exact fits_zero (le_refl _) (by omega)
  · cases hstep : inLigature? c l joiner with
    | some step => exact (fits_inLigature? hstep).mono hone
    | none => exact fits_alone c _

theorem fits_beforePicture (c : Char) (follower : Follower) :
    Fits (max 1 (alone c).1) ⟨.none, follower⟩
      (match inPicture? c follower with
      | some (n, next) => (n, ⟨.none, next⟩)
      | none => alone c) := by
  split
  · rename_i hstep
    exact (fits_inPicture? hstep).mono (le_max_left _ _)
  · exact fits_alone c _

/-- Each character fits, by whichever rule it is measured. -/
theorem fits_widthBefore (c : Char) (f : Following) :
    Fits (max 1 (alone c).1) f (widthBefore c f) := by
  have hone : 1 ≤ max 1 (alone c).1 := le_max_left _ _
  have howed := owed_nonneg f.follower
  have hspare := spare_nonneg f
  unfold widthBefore
  split
  · rename_i h
    have hselector : f.selector = .asPicture := of_decide_eq_true (Bool.and_eq_true_iff.mp h).1
    refine (fits_of_asPicture hselector ?_ ?_).mono hone <;> split <;> decide
  split
  · split
    · exact fits_zero howed (by show 0 ≤ _; omega)
    · exact fits_alone c f
  -- from here on a selector for pictures is ignored
  extract_lets f' plain
  suffices h : Fits (max 1 (alone c).1) f' _ by
    simp only [f'] at h
    split at h
    · exact h.of_withoutSelector
    · exact h
  clear_value f'
  have howed := owed_nonneg f'.follower
  have hspare := spare_nonneg f'
  split
  · exact fits_zero (owed_asPicture_le f') (by rw [spare_asPicture]; omega)
  split
  · exact fits_zero (owed_asText_le f') (by rw [spare_asText]; omega)
  split
  · exact ⟨by show 0 ≤ _; omega, by show 1 + 0 ≤ _; omega⟩
  -- and here any selector is
  refine Fits.of_withoutSelector ?_
  have hplain : plain = ⟨.none, plain.follower⟩ := by rw [← selector_withoutSelector f']
  show Fits _ plain _
  clear_value plain
  rw [hplain]
  dsimp only
  split
  · rename_i l joiner hfollower
    rw [hfollower]
    exact fits_beforeLigature c l joiner
  · exact fits_beforePicture c plain.follower

/-! ## Texts -/

/-- The columns of a text, and what it is to a character in front. -/
def measure (s : List Char) : Int × Following :=
  s.foldr (fun c m => (m.1 + (widthBefore c m.2).1, (widthBefore c m.2).2)) (0, .nothing)

theorem measure_cons (c : Char) (s : List Char) :
    measure (c :: s) =
      ((measure s).1 + (widthBefore c (measure s).2).1, (widthBefore c (measure s).2).2) := rfl

/-- Nothing is taken back that was not there. -/
theorem owed_le_measure (s : List Char) : owed (measure s).2.follower ≤ (measure s).1 := by
  induction s with
  | nil => exact le_refl _
  | cons c s ih =>
    have hfits := (fits_widthBefore c (measure s).2).owed_le
    rw [measure_cons]
    dsimp only
    omega

theorem plainWidth_eq (s : List Char) : (plainWidth s : Int) = (measure s).1 :=
  Int.toNat_of_nonneg ((owed_nonneg _).trans (owed_le_measure s))

theorem plainWidth_singleton (c : Char) : (plainWidth [c] : Int) = (alone c).1 := by
  have hc : (widthBefore c .nothing).1 = (alone c).1 := by
    unfold widthBefore
    simp only [Following.nothing, Following.withoutSelector, inPicture?, reduceCtorEq,
      decide_false, Bool.false_and, Bool.false_eq_true, ↓reduceIte]
    split_ifs <;> simp_all [alone]
  rw [plainWidth_eq, measure_cons]
  exact (Int.zero_add _).trans hc

theorem plainWidth_singleton_of_le (hc : c.toNat ≤ 0xA0) : plainWidth [c] = 1 := by
  have halone : (alone c).1 = 1 := by rw [alone, if_pos hc]
  have hwidth := plainWidth_singleton c
  omega

/-- Characters of one column at most take one column each at most. -/
theorem plainWidth_le_length {s : List Char} (h : ∀ c ∈ s, plainWidth [c] ≤ 1) :
    plainWidth s ≤ s.length := by
  suffices hmeasure : (measure s).1 + spare (measure s).2 ≤ s.length by
    have hspare := spare_nonneg (measure s).2
    have hwidth := plainWidth_eq s
    omega
  induction s with
  | nil => exact le_refl _
  | cons c s ih =>
    have hc := h c List.mem_cons_self
    have hs := ih fun d hd => h d (List.mem_cons_of_mem _ hd)
    have hfits := (fits_widthBefore c (measure s).2).spare_le
    rw [← plainWidth_singleton] at hfits
    rw [measure_cons, List.length_cons]
    dsimp only
    omega

/-! ## Separators -/

/-- Whether the character takes one column whatever stands around it. -/
def IsSeparator (c : Char) : Prop :=
  c.toNat ≤ 0xA0 ∧ isSelectable c = false ∧ c ≠ '\n' ∧ c ≠ '\r'

instance : DecidablePred IsSeparator := fun _ => inferInstanceAs (Decidable (_ ∧ _))

theorem widthBefore_of_isSeparator (hc : IsSeparator c) (f : Following) :
    widthBefore c f = (1, .nothing) := by
  obtain ⟨hascii, hselectable, hfeed, hreturn⟩ := hc
  simp [widthBefore, alone, hascii, hselectable, hfeed, hreturn]

theorem measure_append_cons (hc : IsSeparator c) (s t : List Char) :
    measure (s ++ c :: t) = ((measure s).1 + 1 + (measure t).1, (measure s).2) := by
  induction s with
  | nil =>
    rw [List.nil_append, measure_cons, widthBefore_of_isSeparator hc]
    show ((measure t).1 + 1, Following.nothing) = (0 + 1 + (measure t).1, Following.nothing)
    rw [Int.add_comm, Int.zero_add]
  | cons d s ih =>
    rw [List.cons_append, measure_cons, ih, measure_cons]
    dsimp only
    refine Prod.ext ?_ rfl
    dsimp only
    omega

/-- The columns on the two sides of a separator add up. -/
theorem plainWidth_append_cons (hc : IsSeparator c) (s t : List Char) :
    plainWidth (s ++ c :: t) = plainWidth s + 1 + plainWidth t := by
  have hall := plainWidth_eq (s ++ c :: t)
  have hs := plainWidth_eq s
  have ht := plainWidth_eq t
  rw [measure_append_cons hc] at hall
  omega

end GrowthScan.Text
