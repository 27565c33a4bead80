import GrowthScan.Growth
import GrowthScan.Proofs.Text.Case

/-!
# The labels of growth classes

`Spells` is the grammar of labels, without blanks and in lower case, and a label is
read just if it is in the grammar (`ofLabel?_eq_some_iff`). The degree of a power
may have a plus sign and leading zeros. The second and the third power are the
ranked classes however they are written, and lower powers are not in the grammar.

Different classes have different labels (`label_injective`), and what can be read at
all is read from its own label (`ofLabel?_label_iff`).
-/

namespace GrowthScan

namespace Growth

/-! ## The grammar -/

/-- The text writes the number with decimal digits, at least one, and at most one plus sign in
front of them. -/
def Writes (s : List Char) (n : Nat) : Prop :=
  ∃ digits, (s = digits ∨ s = '+' :: digits) ∧ digits ≠ [] ∧ (∀ c ∈ digits, c.isDigit = true) ∧
    Nat.ofDigitChars 10 digits 0 = n

/-- The texts that name a class. -/
inductive Spells : List Char → Growth → Prop where
  | constant : Spells "o(1)".toList constant
  | logarithmic : Spells "o(logn)".toList logarithmic
  | linear : Spells "o(n)".toList linear
  | linearithmic : Spells "o(nlogn)".toList linearithmic
  | quadratic : Spells "o(n²)".toList quadratic
  | secondPower : Spells "o(n^2)".toList quadratic
  | cubic : Spells "o(n³)".toList cubic
  | thirdPower : Spells "o(n^3)".toList cubic
  | exponential : Spells "o(2^n)".toList exponential
  | polynomial {s : List Char} {n : Nat} (hs : Writes s n) (hlow : 3 < n) (hhigh : n < UInt32.size) :
      Spells ("o(n^".toList ++ s ++ ")".toList) (polynomial (UInt32.ofNat n))

/-! ## Reading numbers -/

theorem writes_iff {s : List Char} {n : Nat} :
    Writes s n ↔
      let digits := (Text.after? ['+'] s).getD s
      digits ≠ [] ∧ (∀ c ∈ digits, c.isDigit = true) ∧ Nat.ofDigitChars 10 digits 0 = n := by
  constructor
  · rintro ⟨digits, rfl | rfl, hne, hall, hn⟩
    · -- a sign is no digit, so there is none in front
      have hsign : Text.after? ['+'] s = none := by
        cases s with
        | nil => rfl
        | cons c s =>
          have hc : '+' ≠ c := by
            rintro rfl
            exact absurd (hall _ List.mem_cons_self) (by decide)
          rw [Text.after?, if_neg hc]
      rw [hsign]
      exact ⟨hne, hall, hn⟩
    · exact ⟨hne, hall, hn⟩
  · rintro ⟨hne, hall, hn⟩
    refine ⟨_, ?_, hne, hall, hn⟩
    cases hs : Text.after? ['+'] s with
    | none => exact .inl rfl
    | some r => exact .inr (Text.after?_eq_some_iff.mp hs)

theorem boundedNumber?_eq_some_iff {bound n : Nat} {s : List Char} :
    boundedNumber? bound s = some n ↔ Writes s n ∧ n < bound := by
  rw [writes_iff, boundedNumber?]
  generalize (Text.after? ['+'] s).getD s = digits
  have hdigits : (!digits.isEmpty && digits.all Char.isDigit) = true ↔
      digits ≠ [] ∧ ∀ c ∈ digits, c.isDigit = true := by simp
  simp only [hdigits, Option.ite_none_right_eq_some, Option.some.injEq]
  constructor
  · rintro ⟨hdigits, hlt, rfl⟩
    exact ⟨⟨hdigits.1, hdigits.2, rfl⟩, hlt⟩
  · rintro ⟨⟨hne, hall, rfl⟩, hlt⟩
    exact ⟨⟨hne, hall⟩, hlt, rfl⟩

theorem spelledDegree?_eq_some_iff {s : List Char} {n : Nat} :
    spelledDegree? s = some n ↔
      ∃ t, s = "o(n^".toList ++ t ++ ")".toList ∧ Writes t n ∧ 3 < n ∧ n < UInt32.size := by
  simp only [spelledDegree?, Option.bind_eq_bind, Option.bind_eq_some_iff,
    Option.ite_none_right_eq_some, Text.after?_eq_some_iff, boundedNumber?_eq_some_iff,
    List.getLast?_eq_some_iff, Option.some.injEq]
  constructor
  · rintro ⟨_, rfl, ⟨t, rfl⟩, n, ⟨ht, hhigh⟩, hlow, rfl⟩
    refine ⟨t, by rw [List.append_assoc]; rfl, ?_, hlow, hhigh⟩
    rwa [List.dropLast_concat] at ht
  · rintro ⟨t, rfl, ht, hlow, hhigh⟩
    refine ⟨t ++ [')'], by rw [List.append_assoc]; rfl, ⟨t, rfl⟩, n, ⟨?_, hhigh⟩, hlow, rfl⟩
    rwa [List.dropLast_concat]

/-! ## Reading labels -/

theorem spells_of_mem_spellings : ∀ p ∈ spellings, Spells p.1.toList p.2 := by
  simp only [spellings, List.forall_mem_cons]
  exact ⟨.constant, .logarithmic, .linear, .linearithmic, .quadratic, .secondPower, .cubic,
    .thirdPower, .exponential, fun _ h => absurd h List.not_mem_nil⟩

theorem ofLabel?_eq_some_iff {label : String} {g : Growth} :
    ofLabel? label = some g ↔ Spells (compactLabel label) g := by
  simp only [ofLabel?]
  generalize compactLabel label = s
  constructor
  · intro h
    split at h
    · rename_i p hp
      have hs : p.1.toList = s := by simpa using List.find?_some hp
      rw [← Option.some.inj h, ← hs]
      exact spells_of_mem_spellings p (List.mem_of_find?_eq_some hp)
    · obtain ⟨n, hn, rfl⟩ := Option.map_eq_some_iff.mp h
      obtain ⟨t, rfl, ht, hlow, hhigh⟩ := spelledDegree?_eq_some_iff.mp hn
      exact .polynomial ht hlow hhigh
  · intro h
    cases h with
    | @polynomial t n ht hlow hhigh =>
      have hdegree := spelledDegree?_eq_some_iff.mpr ⟨t, rfl, ht, hlow, hhigh⟩
      -- the spellings of the ranked classes are no powers that count
      have hranked : ∀ p ∈ spellings, spelledDegree? p.1.toList = none := by decide +kernel
      split
      · rename_i p hp
        have hs : p.1.toList = "o(n^".toList ++ t ++ ")".toList := by simpa using List.find?_some hp
        have hnone := hranked p (List.mem_of_find?_eq_some hp)
        rw [hs, hdegree] at hnone
        cases hnone
      · rw [hdegree, Option.map_some]
    | _ => decide +kernel

example : ofLabel? "O(n ^ +0 7)" = some (polynomial 7) := by decide +kernel

/-! ## Writing labels -/

theorem toList_label_polynomial (d : UInt32) :
    (polynomial d).label.toList = "O(n^".toList ++ (Nat.toDigits 10 d.toNat ++ ")".toList) := by
  rw [label, String.toList_append, String.toList_append, Nat.toList_repr, List.append_assoc]

/-- Digits tell their number. -/
theorem toDigits_injective : Function.Injective (Nat.toDigits 10) :=
  Function.LeftInverse.injective fun _ => Nat.ofDigitChars_ten_toDigits

theorem label_polynomial_injective {d e : UInt32} (h : (polynomial d).label = (polynomial e).label) :
    d = e := by
  have hlist := congrArg String.toList h
  rw [toList_label_polynomial, toList_label_polynomial] at hlist
  have hdigits := List.append_cancel_right (List.append_cancel_left hlist)
  exact UInt32.toNat_inj.mp (toDigits_injective hdigits)

/-- Different classes have different labels. -/
theorem label_injective : Function.Injective label := by
  have hranked : ∀ a ∈ ranked, ∀ b ∈ ranked, a.label = b.label → a = b := by decide
  have hpower : ∀ a ∈ ranked, ∀ d, a.label ≠ (polynomial d).label := by
    intro a ha d h
    have hfront : ∀ a ∈ ranked, Text.after? "O(n^".toList a.label.toList = none := by decide
    have hnone := hfront a ha
    rw [h, toList_label_polynomial, Text.after?_eq_some_iff.mpr rfl] at hnone
    cases hnone
  intro a b h
  rcases mem_ranked_or a with ha | ⟨d, rfl⟩ <;> rcases mem_ranked_or b with hb | ⟨e, rfl⟩
  · exact hranked a ha b hb h
  · exact absurd h (hpower a ha e)
  · exact absurd h.symm (hpower b hb d)
  · rw [label_polynomial_injective h]

/-! ## Reading what was written -/

theorem toNat_of_isDigit {c : Char} (h : c.isDigit = true) : 48 ≤ c.toNat ∧ c.toNat ≤ 57 := by
  simpa [Char.isDigit, UInt32.le_iff_toNat_le] using h

theorem isNeutral_of_isDigit {c : Char} (h : c.isDigit = true) : Text.isNeutral c = true := by
  have hall : ∀ n ∈ List.range' 48 10, Text.isNeutral (Char.ofNat n) = true := by decide +kernel
  have hc := toNat_of_isDigit h
  exact Text.of_toNat_mem (p := (Text.isNeutral · = true)) hall (List.mem_range'_1.mpr (by omega))

theorem not_isBlank_of_isDigit {c : Char} (h : c.isDigit = true) : Text.isBlank c = false := by
  have hc := toNat_of_isDigit h
  rw [← Bool.not_eq_true]
  intro hblank
  have hpoint := Text.toNat_mem_blankPoints hblank
  simp only [Text.blankPoints, List.mem_cons, List.not_mem_nil, or_false] at hpoint
  omega

theorem compactLabel_label_polynomial (d : UInt32) :
    compactLabel (polynomial d).label =
      "o(n^".toList ++ Nat.toDigits 10 d.toNat ++ ")".toList := by
  have hdigit : ∀ c ∈ Nat.toDigits 10 d.toNat, c.isDigit = true := fun c hc =>
    Nat.isDigit_of_mem_toDigits (by decide) (by decide) hc
  have hblank : (Nat.toDigits 10 d.toNat).filter (fun c => !Text.isBlank c) =
      Nat.toDigits 10 d.toNat :=
    List.filter_eq_self.mpr fun c hc => by rw [not_isBlank_of_isDigit (hdigit c hc)]; rfl
  have hclose : ∀ c ∈ ")".toList, Text.isNeutral c = true :=
    List.forall_mem_singleton.mpr (by decide +kernel)
  have hneutral : ∀ c ∈ Nat.toDigits 10 d.toNat ++ ")".toList, Text.isNeutral c = true :=
    List.forall_mem_append.mpr ⟨fun c hc => isNeutral_of_isDigit (hdigit c hc), hclose⟩
  have hfront : Text.lower ("O(n^".toList.filter fun c => !Text.isBlank c) = "o(n^".toList := by
    decide +kernel
  have hback : (")".toList.filter fun c => !Text.isBlank c) = ")".toList := by decide
  rw [compactLabel, toList_label_polynomial, List.filter_append, List.filter_append, hblank, hback,
    Text.lower_append_of_neutral hneutral, hfront, List.append_assoc]

theorem writes_toDigits (n : Nat) : Writes (Nat.toDigits 10 n) n :=
  ⟨_, .inl rfl, Nat.toDigits_ne_nil,
    fun _ hc => Nat.isDigit_of_mem_toDigits (by decide) (by decide) hc,
    Nat.ofDigitChars_ten_toDigits⟩

theorem three_lt_of_spells {s : List Char} {d : UInt32} (h : Spells s (polynomial d)) : 3 < d := by
  cases h with
  | polynomial hs hlow hhigh =>
    rw [UInt32.lt_iff_toNat_lt, UInt32.toNat_ofNat_of_lt' hhigh]
    exact hlow

/-- The ranked classes and the powers above the third are read from their own labels, and no
others. -/
theorem ofLabel?_label_iff {g : Growth} :
    ofLabel? g.label = some g ↔ g.isRanked = true ∨ ∃ d, 3 < d ∧ g = polynomial d := by
  have hranked : ∀ g ∈ ranked, ofLabel? g.label = some g := by decide +kernel
  rcases mem_ranked_or g with hg | ⟨d, rfl⟩
  · exact iff_of_true (hranked g hg) (.inl (mem_ranked_iff.mp hg))
  · rw [ofLabel?_eq_some_iff]
    constructor
    · intro h
      exact .inr ⟨d, three_lt_of_spells h, rfl⟩
    · rintro (h | ⟨e, he, hd⟩)
      · cases h
      · obtain rfl := polynomial.inj hd
        have hspells := Spells.polynomial (writes_toDigits d.toNat) (UInt32.lt_iff_toNat_lt.mp he)
          d.toNat_lt
        rwa [UInt32.ofNat_toNat, ← compactLabel_label_polynomial] at hspells

/-- A class that is read is one whose label can be read. -/
theorem ofLabel?_label_of_ofLabel? {label : String} {g : Growth} (h : ofLabel? label = some g) :
    ofLabel? g.label = some g := by
  rw [ofLabel?_label_iff]
  rcases mem_ranked_or g with hg | ⟨d, rfl⟩
  · exact .inl (mem_ranked_iff.mp hg)
  · exact .inr ⟨d, three_lt_of_spells (ofLabel?_eq_some_iff.mp h), rfl⟩

theorem ofLabel_eq_ok_iff {label : String} {g : Growth} :
    ofLabel label = .ok g ↔ ofLabel? label = some g := by
  rw [ofLabel]
  cases ofLabel? label <;> simp

/-- Labels and classes. A label is read just if it is in the grammar, and quoted if it is not;
different classes are written differently; the ranked classes and the powers above the third, and
only they, are read from their labels; and what has been read, written and read again is
the same. -/
theorem ofLabel_grammar :
    (∀ (label : String) (g : Growth), ofLabel label = .ok g ↔ Spells (compactLabel label) g) ∧
    (∀ label : String, ofLabel label = .error (.unknownGrowth label) ↔
      ¬∃ g, Spells (compactLabel label) g) ∧
    Function.Injective label ∧
    (∀ g : Growth, ofLabel g.label = .ok g ↔
      g.isRanked = true ∨ ∃ d, 3 < d ∧ g = polynomial d) ∧
    ∀ label : String, (ofLabel label).bind (fun g => ofLabel g.label) = ofLabel label := by
  have hgrammar (label : String) (g : Growth) :
      ofLabel label = .ok g ↔ Spells (compactLabel label) g := by
    rw [ofLabel_eq_ok_iff, ofLabel?_eq_some_iff]
  refine ⟨hgrammar, fun label => ?_, label_injective, fun g => ?_, fun label => ?_⟩
  · simp only [← hgrammar, ofLabel]
    cases ofLabel? label <;> simp
  · rw [ofLabel_eq_ok_iff, ofLabel?_label_iff]
  · cases h : ofLabel label with
    | error e => rfl
    | ok g =>
      exact ofLabel_eq_ok_iff.mpr (ofLabel?_label_of_ofLabel? (ofLabel_eq_ok_iff.mp h))

end Growth

end GrowthScan
