import GrowthScan.Proofs.Text.Escape
import GrowthScan.Text.Style

/-!
# Painted texts

A style is switched on by one sequence (`afterEscape?_opening`) and off by another, so
that a painted text is the text between two sequences (`partsAfter_paint`). It has the
columns of the text (`width_paint`), and the text is what is left of it when it is
stripped. `Shows` is that relation for texts that are put together.
-/

namespace GrowthScan.Text

variable {s t u : List Char} {c : Char}

/-! ## Styles -/

/-- Whether the style is switched on by numbers of a few digits, as terminals know them. -/
def Style.IsNumeric (st : Style) : Prop :=
  st.codes ≠ [] ∧ ∀ code ∈ st.codes,
    code ≠ [] ∧ code.length ≤ 4 ∧ ∀ c ∈ code, c.isDigit = true

-- by `all`, which goes through the characters of the code and not through all that there are
instance : DecidablePred Style.IsNumeric := fun st =>
  decidable_of_iff (st.codes ≠ [] ∧ ∀ code ∈ st.codes,
    code ≠ [] ∧ code.length ≤ 4 ∧ code.all Char.isDigit = true)
    (by simp only [Style.IsNumeric, List.all_eq_true])

theorem afterSequence?_ended (found : Option (List Char)) (s : List Char) :
    afterSequence? .ended found s = found := by
  cases s <;> rfl

theorem ne_semicolon_of_isDigit (hc : c.isDigit = true) : c ≠ ';' := by
  rintro rfl
  cases hc

theorem afterSequence?_digits {ds : List Char} (hds : ∀ d ∈ ds, d.isDigit = true) {n : Nat}
    (hn : n + ds.length ≤ 4) (found : Option (List Char)) (t : List Char) :
    ∃ found', afterSequence? (.digits n) found (ds ++ t) =
      afterSequence? (.digits (n + ds.length)) found' t := by
  induction ds generalizing n found with
  | nil => exact ⟨found, rfl⟩
  | cons d ds ih =>
    have hd : d.isDigit = true := hds d List.mem_cons_self
    rw [List.length_cons] at hn
    have hnext : (EscapeState.digits n).next? d = some (.digits (n + 1)) := by
      simp [EscapeState.next?, show ¬4 < n by omega, ne_semicolon_of_isDigit hd, hd]
    obtain ⟨found', h⟩ := ih (fun d hd => hds d (List.mem_cons_of_mem _ hd))
      (show n + 1 + ds.length ≤ 4 by omega) (some (ds ++ t))
    refine ⟨found', ?_⟩
    rw [List.cons_append, afterSequence?, hnext, List.length_cons,
      show n + (ds.length + 1) = n + 1 + ds.length by omega, ← h]
    rfl

/-- A number at the place of one brings the search to its end. -/
theorem afterSequence?_number {code : List Char} (hne : code ≠ []) (hlength : code.length ≤ 4)
    (hcode : ∀ c ∈ code, c.isDigit = true) {st : EscapeState} (hst : st = .marks ∨ st = .semicolon)
    (found : Option (List Char)) (t : List Char) :
    ∃ found', afterSequence? st found (code ++ t) =
      afterSequence? (.digits code.length) found' t := by
  obtain ⟨d, ds, rfl⟩ := List.exists_cons_of_ne_nil hne
  have hd : d.isDigit = true := hcode d List.mem_cons_self
  have hnext : st.next? d = some (.digits 1) := by
    have hmarks : ['(', ')', ';', '[', '#', '?'].all (fun mark => !mark.isDigit) = true := by decide
    have hmark : d ∉ ['(', ')', ';', '[', '#', '?'] := fun h => by
      have hno := List.all_eq_true.mp hmarks d h
      rw [hd] at hno
      cases hno
    rcases hst with rfl | rfl
    · simp only [EscapeState.next?, List.contains_iff_mem, hmark, hd, ↓reduceIte]
    · simp only [EscapeState.next?, ne_semicolon_of_isDigit hd, hd, ↓reduceIte]
  rw [List.length_cons] at hlength
  obtain ⟨found', h⟩ := afterSequence?_digits (fun c hc => hcode c (List.mem_cons_of_mem _ hc))
    (show 1 + ds.length ≤ 4 by omega) (some (ds ++ t)) t
  refine ⟨found', ?_⟩
  rw [List.cons_append, afterSequence?, hnext, List.length_cons, Nat.add_comm ds.length 1, ← h]
  rfl

theorem afterSequence?_codes {codes : List (List Char)} (hne : codes ≠ [])
    (hcodes : ∀ code ∈ codes, code ≠ [] ∧ code.length ≤ 4 ∧ ∀ c ∈ code, c.isDigit = true)
    {st : EscapeState} (hst : st = .marks ∨ st = .semicolon) (found : Option (List Char))
    (t : List Char) : afterSequence? st found ([';'].intercalate codes ++ 'm' :: t) = some t := by
  induction codes using joinLines_induction generalizing st found with
  | nil => exact absurd rfl hne
  | singleton code =>
    obtain ⟨hne, hlength, hdigits⟩ := hcodes code (List.mem_singleton_self _)
    obtain ⟨found', h⟩ := afterSequence?_number hne hlength hdigits hst found ('m' :: t)
    have hnext : (EscapeState.digits code.length).next? 'm' = some .ended := by
      simp [EscapeState.next?, show ¬4 < code.length by omega, EscapeState.isLast]
    rw [List.intercalate_singleton, h, afterSequence?, hnext]
    exact afterSequence?_ended (some t) t
  | cons code codes hcodes' ih =>
    obtain ⟨hne, hlength, hdigits⟩ := hcodes code List.mem_cons_self
    obtain ⟨found', h⟩ := afterSequence?_number hne hlength hdigits hst found
      (';' :: ([';'].intercalate codes ++ 'm' :: t))
    have hnext : (EscapeState.digits code.length).next? ';' = some .semicolon := by
      simp [EscapeState.next?, show ¬4 < code.length by omega]
    rw [List.intercalate_cons_of_ne_nil hcodes', List.append_assoc, List.append_assoc,
      List.singleton_append, h, afterSequence?, hnext]
    exact ih hcodes' (fun code hcode => hcodes code (List.mem_cons_of_mem _ hcode)) (.inr rfl) _

/-- What switches a style on is one sequence. -/
theorem afterEscape?_opening {st : Style} (hst : st.IsNumeric) (t : List Char) :
    afterEscape? (st.opening ++ t) = some t := by
  have hopening : st.opening ++ t = '\x1b' :: '[' :: ([';'].intercalate st.codes ++ 'm' :: t) := by
    simp [Style.opening]
  rw [hopening]
  exact afterSequence?_codes hst.1 hst.2 (.inl rfl) none t

/-! ## Painted texts -/

/-- Whether no character of the text starts a sequence. -/
def IsPlain (s : List Char) : Prop := '\x1b' ∉ s ∧ '\u009b' ∉ s

instance : DecidablePred IsPlain := fun _ => inferInstanceAs (Decidable (_ ∧ _))

theorem isPlain_singleton_iff : IsPlain [c] ↔ c ≠ '\x1b' ∧ c ≠ '\u009b' := by
  simp only [IsPlain, List.mem_singleton, ne_comm, ne_eq]

/-- A text is plain if each of its characters is. -/
theorem isPlain_iff_forall_mem : IsPlain s ↔ ∀ c ∈ s, IsPlain [c] := by
  simp only [isPlain_singleton_iff]
  constructor
  · rintro ⟨hescape, hshort⟩ c hc
    exact ⟨fun h => hescape (h ▸ hc), fun h => hshort (h ▸ hc)⟩
  · intro h
    exact ⟨fun hc => (h _ hc).1 rfl, fun hc => (h _ hc).2 rfl⟩

theorem isPlain_append_iff : IsPlain (s ++ t) ↔ IsPlain s ∧ IsPlain t := by
  simp only [IsPlain, List.mem_append, not_or]
  tauto

theorem isPlain_cons_iff : IsPlain (c :: s) ↔ IsPlain [c] ∧ IsPlain s :=
  isPlain_append_iff (s := [c])

theorem partsAfter_append (hs : IsPlain s) (t : List Char) :
    partsAfter 0 (s ++ t) = s.foldr consToFirst (partsAfter 0 t) := by
  induction s with
  | nil => rfl
  | cons c s ih =>
    obtain ⟨hc, hs⟩ := isPlain_cons_iff.mp hs
    have hnone : afterEscape? (c :: (s ++ t)) = none :=
      afterEscape?_of_ne (fun h => hc.1 (by simp [h])) (fun h => hc.2 (by simp [h])) _
    rw [List.cons_append, partsAfter, hnone, List.foldr_cons, ← ih hs]

theorem partsAfter_length_append (s t : List Char) :
    partsAfter s.length (s ++ t) = partsAfter 0 t := by
  induction s with
  | nil => rfl
  | cons c s ih => exact ih

/-- A sequence takes the place between two parts. -/
theorem partsAfter_opening {st : Style} (hst : st.IsNumeric) (t : List Char) :
    partsAfter 0 (st.opening ++ t) = [] :: partsAfter 0 t := by
  have hescape := afterEscape?_opening hst t
  have hne : st.opening ≠ [] := by simp [Style.opening]
  obtain ⟨c, rest, hopening⟩ := List.exists_cons_of_ne_nil hne
  rw [hopening, List.cons_append] at hescape ⊢
  rw [partsAfter, hescape]
  dsimp only
  rw [List.length_append, Nat.add_sub_cancel, partsAfter_length_append]

theorem resumed_eq_self {st : Style} (hs : '\x1b' ∉ s) : st.resumed s = s := by
  induction s with
  | nil => rfl
  | cons c s ih =>
    rw [List.mem_cons, not_or] at hs
    rw [Style.resumed, ih hs.2]
    rintro _ rfl
    exact absurd rfl hs.1

/-- A painted text is the text between two sequences. -/
theorem partsAfter_paint {st : Style} (hst : st.IsNumeric) (hs : IsPlain s) (t : List Char) :
    partsAfter 0 (paint true st s ++ t) = [] :: s :: partsAfter 0 t := by
  have hreset : Style.reset = Style.opening ⟨[['0']]⟩ := rfl
  have hpaint : paint true st s ++ t = st.opening ++ (s ++ (Style.reset ++ t)) := by
    simp [paint, resumed_eq_self hs.1]
  rw [hpaint, partsAfter_opening hst, partsAfter_append hs, hreset,
    partsAfter_opening (by decide), foldr_consToFirst, List.append_nil]

/-- Paint takes no column. -/
theorem width_paint {st : Style} (hst : st.IsNumeric) (hs : IsPlain s) (colored : Bool) :
    width (paint colored st s) = width s := by
  have hplain : plainParts s = [s] := by
    have h := partsAfter_append hs []
    rw [List.append_nil] at h
    exact h.trans ((foldr_consToFirst s [] []).trans (by rw [List.append_nil]))
  cases colored with
  | false => rfl
  | true =>
    have hpainted : plainParts (paint true st s) = [[], s, []] := by
      have h := partsAfter_paint hst hs []
      rw [List.append_nil] at h
      exact h
    show ((plainParts (paint true st s)).map plainWidth).sum = ((plainParts s).map plainWidth).sum
    rw [hpainted, hplain]
    simp [plainWidth]

/-! ## What is shown -/

/-- The first text leaves the second when it is stripped, whatever follows. -/
def Shows (painted s : List Char) : Prop := ∀ t, stripped (painted ++ t) = s ++ stripped t

theorem Shows.stripped_eq (h : Shows u s) : stripped u = s := by
  have hnil := h []
  rwa [List.append_nil, show stripped [] = [] from rfl, List.append_nil] at hnil

theorem Shows.append {v : List Char} (hs : Shows u s) (ht : Shows v t) :
    Shows (u ++ v) (s ++ t) := by
  intro rest
  rw [List.append_assoc, hs, ht, List.append_assoc]

theorem flatten_foldr_consToFirst (s : List Char) (ps : List (List Char)) :
    (s.foldr consToFirst ps).flatten = s ++ ps.flatten := by
  induction s with
  | nil => rfl
  | cons c s ih => rw [List.foldr_cons, flatten_consToFirst, ih, List.cons_append]

theorem shows_self (hs : IsPlain s) : Shows s s := by
  intro t
  rw [stripped, plainParts, partsAfter_append hs, flatten_foldr_consToFirst]
  rfl

theorem shows_paint {st : Style} (hst : st.IsNumeric) (hs : IsPlain s) (colored : Bool) :
    Shows (paint colored st s) s := by
  cases colored with
  | false => exact shows_self hs
  | true =>
    intro t
    rw [stripped, plainParts, partsAfter_paint hst hs]
    rfl

/-- Lines that are shown are shown when they are joined. -/
theorem shows_joinLines {ls ms : List (List Char)} (h : List.Forall₂ Shows ls ms) :
    Shows (joinLines ls) (joinLines ms) := by
  induction h with
  | nil => exact shows_self (by decide)
  | @cons l m ls ms hl hls ih =>
    by_cases hne : ls = []
    · subst hne
      cases hls
      rw [joinLines_singleton, joinLines_singleton]
      exact hl
    · have hne' : ms ≠ [] := fun h => hne (by
        subst h
        cases hls
        rfl)
      rw [joinLines_cons l hne, joinLines_cons m hne']
      exact hl.append ((shows_self (s := ['\n']) (by decide)).append ih)

end GrowthScan.Text
