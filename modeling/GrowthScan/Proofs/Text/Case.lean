import GrowthScan.Proofs.Text.Lines
import GrowthScan.Text.Case

/-!
# Lower-casing around blanks

The form of a capital sigma depends on what stands around it, but never on what
stands beyond a blank: blanks are neutral (`isNeutral_of_isBlank`), and
lower-casing treats the texts on both sides of a neutral character on their own
(`lower_append_cons`).
-/

namespace GrowthScan.Text

/-- Whether lower-casing keeps the character and looks for case no further than it. -/
def isNeutral (c : Char) : Bool :=
  lowerChar c == [c] && !isCased c && !isCaseIgnorable c && c != 'Σ'

/-- The code points of the blanks. -/
def blankPoints : List Nat :=
  [0x9, 0xA, 0xB, 0xC, 0xD, 0x20, 0x85, 0xA0, 0x1680, 0x2000, 0x2001, 0x2002, 0x2003, 0x2004,
   0x2005, 0x2006, 0x2007, 0x2008, 0x2009, 0x200A, 0x2028, 0x2029, 0x202F, 0x205F, 0x3000]

theorem toNat_mem_blankPoints {c : Char} (h : isBlank c = true) : c.toNat ∈ blankPoints := by
  simp only [isBlank, Bool.or_eq_true, Bool.and_eq_true, decide_eq_true_eq, beq_iff_eq] at h
  simp only [blankPoints, List.mem_cons, List.not_mem_nil, or_false]
  omega

theorem of_toNat_mem {p : Char → Prop} {points : List Nat} (hall : ∀ n ∈ points, p (Char.ofNat n))
    {c : Char} (h : c.toNat ∈ points) : p c := by
  have hc := hall _ h
  rwa [Char.ofNat_toNat] at hc

theorem isNeutral_of_isBlank {c : Char} (h : isBlank c = true) : isNeutral c = true := by
  have hall : ∀ n ∈ blankPoints, isNeutral (Char.ofNat n) = true := by decide +kernel
  exact of_toNat_mem (p := (isNeutral · = true)) hall (toNat_mem_blankPoints h)

section

variable {c : Char} (hc : isNeutral c = true)

include hc

theorem meetsCased_append_cons (a b : List Char) : meetsCased (a ++ c :: b) = meetsCased a := by
  simp only [isNeutral, Bool.and_eq_true, Bool.not_eq_true'] at hc
  have hstop : (c :: b).dropWhile isCaseIgnorable = c :: b :=
    List.dropWhile_cons_of_neg (by simp [hc.1.2])
  rw [meetsCased, meetsCased, List.dropWhile_append, hstop]
  cases a.dropWhile isCaseIgnorable with
  | nil => exact hc.1.1.2
  | cons d a => rfl

theorem lowerAfter_append_cons (before a b : List Char) :
    lowerAfter before (a ++ c :: b) =
      lowerAfter before a ++ lowerAfter (a.reverse ++ before) (c :: b) := by
  induction a generalizing before with
  | nil => rfl
  | cons d a ih =>
    rw [List.cons_append, lowerAfter, lowerAfter, ih, meetsCased_append_cons hc,
      List.append_assoc, List.reverse_cons, List.append_assoc, List.singleton_append]

/-- What stands in front of a neutral character does not matter behind it. -/
theorem lowerAfter_of_neutral (before behind s : List Char) :
    lowerAfter (before ++ c :: behind) s = lowerAfter before s := by
  induction s generalizing before with
  | nil => rfl
  | cons d s ih =>
    rw [lowerAfter, lowerAfter, meetsCased_append_cons hc, ← List.cons_append, ih]

theorem lower_append_cons (a b : List Char) : lower (a ++ c :: b) = lower a ++ c :: lower b := by
  have hb : lowerAfter (a.reverse ++ []) (c :: b) = c :: lower b := by
    have hkept := hc
    simp only [isNeutral, Bool.and_eq_true, beq_iff_eq, bne_iff_ne] at hkept
    rw [lowerAfter, if_neg (by simpa using hkept.2), hkept.1.1.1]
    exact congrArg (c :: ·) (lowerAfter_of_neutral hc [] _ b)
  rw [lower, lowerAfter_append_cons hc, hb, ← lower]

theorem lower_cons (s : List Char) : lower (c :: s) = c :: lower s := lower_append_cons hc [] s

theorem lower_concat (s : List Char) : lower (s ++ [c]) = lower s ++ [c] := lower_append_cons hc s []

end

theorem lower_append_of_neutral {s : List Char} (h : ∀ c ∈ s, isNeutral c = true) (a : List Char) :
    lower (a ++ s) = lower a ++ s := by
  induction s generalizing a with
  | nil => rw [List.append_nil, List.append_nil]
  | cons c s ih =>
    obtain ⟨hc, hs⟩ := List.forall_mem_cons.mp h
    rw [lower_append_cons hc, ← List.nil_append s, ih hs, List.nil_append]
    rfl

theorem lower_joinLines (ls : List (List Char)) :
    lower (joinLines ls) = joinLines (ls.map lower) := by
  induction ls using joinLines_induction with
  | nil => rfl
  | singleton l => rw [joinLines_singleton, List.map_singleton, joinLines_singleton]
  | cons l ls hls ih =>
    rw [joinLines_cons l hls, lower_append_cons (isNeutral_of_isBlank (by decide)), ih,
      List.map_cons, joinLines_cons _ (by simpa using hls)]

end GrowthScan.Text
