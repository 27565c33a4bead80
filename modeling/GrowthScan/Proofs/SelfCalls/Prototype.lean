import GrowthScan.Proofs.Analysis.Detectors
import GrowthScan.Proofs.SelfCalls.Count

/-!
# Prototypes

A prototype repeats the header of a declaration in front of it and ends with a semicolon. Type
words lead no header on its line (`Header.ofLine?_concat_semicolon`), but a keyword may,
and then the prototype is the declaration that is found: it has the same name and looks
like a call if the header does (`Declaration.exists_find?_prototype`). Whichever of the
two is found, the other one is not left out of the count. So a prototype that looks like a call
is one call more (`SelfCalls.calls_prototype`), and one with a gap behind the name is none.
-/

namespace GrowthScan

open Text (occurrences)

namespace Header

/-- The prototype of a header: the header, the parameters, a closing parenthesis and a semicolon. -/
def prototype (h : Header) (parameters : List Char) : List Char :=
  h.text ++ parameters ++ ");".toList

/-- Type words lead no header on a line that ends in a semicolon. -/
theorem ofLine?_concat_semicolon (n : Nat) (line : List Char) :
    ofLine? n (line ++ [';']) = none := by
  have htrim : Text.trimEnd (line ++ [';']) = line ++ [';'] :=
    List.rdropWhile_concat_neg _ _ _ (by decide)
  have hlast : (Text.trimEnd (line ++ [';'])).getLast? = some ';' := by
    rw [htrim, List.getLast?_concat]
  cases hh : ofLine? n (line ++ [';']) with
  | none => rfl
  | some h =>
    simp only [ofLine?, Option.bind_eq_bind] at hh
    obtain ⟨run, -, hh⟩ := Option.bind_eq_some_iff.mp hh
    simp [hlast] at hh

variable {h : Header} {parameters : List Char}

/-- A keyword that leads a header on the line of a prototype leads to the prototype's own
parenthesis, so that both headers declare the same, on whichever line. -/
theorem ofHeader_of_keywordLed?_prototype (hh : h.Sound) (hparameters : '(' ∉ parameters)
    {k : Header} (hk : keywordLed? (h.prototype parameters) = some k) (i : Nat) :
    Declaration.ofHeader i k = Declaration.ofHeader i h := by
  obtain ⟨hsound, front, rest, htext⟩ := sound_of_keywordLed? hk
  -- there is one parenthesis on the line, and both runs end at it
  have hrun : h.run = front ++ k.run := by
    have hparts : h.run ++ '(' :: (parameters ++ ");".toList) = (front ++ k.run) ++ '(' :: rest := by
      rw [prototype, hh.text_eq, hsound.text_eq] at htext
      simpa using htext.symm
    exact ((List.append_cons_inj_of_notMem (hh.not_mem_run (by decide))
      (by simpa using hparameters)).mp hparts).1
  have hname : h.name = k.name := by
    rw [← hh.name_eq, hrun, ofRun_append front hsound.lead_ne_nil, ← hsound.name_eq]
  have hshape : (k.name ++ ['(']).isSuffixOf k.text = (h.name ++ ['(']).isSuffixOf h.text := by
    rw [Bool.eq_iff_iff, hsound.isSuffixOf_text_iff, hh.isSuffixOf_text_iff, hname, hrun]
    refine ⟨fun hs => hs.trans (List.suffix_append _ _), fun hs => ?_⟩
    -- the name is no longer than the shorter of the two runs, of which it is a part
    refine List.suffix_of_suffix_length_le hs (List.suffix_append _ _) ?_
    rw [← hsound.name_eq]
    exact length_name_ofRun_le k.run
  rw [Declaration.ofHeader, Declaration.ofHeader, hshape, hname]

/-- The places of a header's call in its prototype. -/
theorem occurrences_prototype (hh : h.Sound) (hparameters : '(' ∉ parameters) :
    occurrences (h.name ++ ['(']) (h.prototype parameters) =
      ((h.name ++ ['(']).isSuffixOf h.text).toNat := by
  have hname : '(' ∉ h.name := fun hc => absurd (hh.isWord_of_mem_name hc) (by decide)
  have hparts : h.prototype parameters = h.run ++ '(' :: (parameters ++ ");".toList) := by
    rw [prototype, hh.text_eq]
    simp
  have hrest : occurrences (h.name ++ ['(']) (parameters ++ ");".toList) = 0 :=
    Text.occurrences_of_not_mem (by simp) (List.mem_append_right _ List.mem_cons_self)
      (by simpa using hparameters)
  rw [hparts, Text.occurrences_append_parenthesis hname (hh.not_mem_run (by decide)), hrest,
    Nat.add_zero]
  simp only [← hh.isSuffixOf_text_iff]
  cases (h.name ++ ['(']).isSuffixOf h.text <;> rfl

end Header

/-- With a prototype in front, the same function is found, in one place or the other. -/
theorem Declaration.exists_find?_prototype {code parameters : List Char} {h : Header}
    (hh : Header.first? code = some h) (hparameters : '(' ∉ parameters)
    (hbreak : '\n' ∉ parameters) : ∃ d, find? (h.prototype parameters ++ '\n' :: code) = some d ∧
      d.name = h.name ∧ d.hasCallShape = (Header.declaration code h).hasCallShape := by
  have hsound := Header.sound_of_first? hh
  have hline : '\n' ∉ h.prototype parameters := by
    have hrun : '\n' ∉ h.run := hsound.not_mem_run (by decide)
    rw [Header.prototype, hsound.text_eq]
    simp [hrun, hbreak]
  have htyped : Header.ofLine? 0 (h.prototype parameters) = none := by
    have hend : h.prototype parameters = (h.text ++ parameters ++ [')']) ++ [';'] := by
      simp [Header.prototype]
    rw [hend]
    exact Header.ofLine?_concat_semicolon 0 _
  have hcode : find? code = some (Header.declaration code h) := by rw [find?, hh, Option.map_some]
  rw [find?_append_cons, find?_of_not_mem hline, onLine?, Header.onLine?, htyped, Option.none_or,
    hcode]
  cases hk : Header.keywordLed? (h.prototype parameters) with
  | none => exact ⟨_, rfl, rfl, rfl⟩
  | some k =>
    refine ⟨_, rfl, ?_⟩
    rw [Header.ofHeader_of_keywordLed?_prototype hsound hparameters hk 0]
    exact ⟨rfl, rfl⟩

namespace SelfCalls

/-- The finding on the recursion of a text. -/
def recursion (code : List Char) : Finding := (ofCode code).finding (Text.lower code)

theorem recursion_eq_noFinding_iff (code : List Char) :
    recursion code = noFinding ↔ (ofCode code).calls = 0 := by
  rw [recursion]
  rcases finding_eq_cases (ofCode code) (Text.lower code) with
    ⟨h, hf⟩ | ⟨h, -, hf⟩ | ⟨h, -, hf | hf⟩ <;> rw [hf]
  · exact iff_of_true rfl h
  all_goals exact iff_of_false (by decide) (by omega)

/-- A prototype that looks like a call is one call more. -/
theorem calls_prototype {code parameters : List Char} {h : Header}
    (hh : Header.first? code = some h) (hparameters : '(' ∉ parameters)
    (hbreak : '\n' ∉ parameters) :
    (ofCode (h.prototype parameters ++ '\n' :: code)).calls =
      (ofCode code).calls + (Header.declaration code h).hasCallShape.toNat := by
  obtain ⟨d, hd, hname, hshape⟩ := Declaration.exists_find?_prototype hh hparameters hbreak
  have hcode : Declaration.find? code = some (Header.declaration code h) := by
    rw [Declaration.find?, hh, Option.map_some]
  have hcalls := (counts_ofCode hd).calls_add
  have hcalls₀ := (counts_ofCode hcode).calls_add
  have hcall : d.call = (Header.declaration code h).call := by
    rw [Declaration.call, Declaration.call, hname]
    rfl
  have hmem : '\n' ∉ (Header.declaration code h).call := fun hc =>
    absurd (Declaration.isBlank_of_find? hcode _ hc) (by decide)
  have hplaces : occurrences (Header.declaration code h).call (h.prototype parameters) =
      (Header.declaration code h).hasCallShape.toNat :=
    Header.occurrences_prototype (Header.sound_of_first? hh) hparameters
  rw [hcall, hshape, Text.occurrences_append_cons (Declaration.call_ne_nil _) hmem,
    hplaces] at hcalls
  omega

/-- A prototype in front of a text is one call more if its header looks like a call, and else it
is none. So it leaves a text without recursion only if there is a gap behind the name. -/
theorem recursion_prototype {code parameters : List Char} {h : Header}
    (hh : Header.first? code = some h) (hparameters : '(' ∉ parameters)
    (hbreak : '\n' ∉ parameters) :
    (ofCode (h.prototype parameters ++ '\n' :: code)).calls =
        (ofCode code).calls + (Header.declaration code h).hasCallShape.toNat ∧
      (recursion (h.prototype parameters ++ '\n' :: code) = noFinding ↔
        recursion code = noFinding ∧ (Header.declaration code h).hasCallShape = false) := by
  have hcalls := calls_prototype hh hparameters hbreak
  refine ⟨hcalls, ?_⟩
  rw [recursion_eq_noFinding_iff, recursion_eq_noFinding_iff, hcalls, Nat.add_eq_zero_iff,
    Bool.toNat_eq_zero]

/-- The header has a gap, and its prototype counts nothing. -/
theorem recursion_prototype_gap :
    let code := "char *copy (const char *s) \x7b\n  return strdup(s);\n\x7d".toList
    let h : Header := ⟨0, "char *copy (".toList, "copy".toList⟩
    let parameters := "const char *s".toList
    Header.first? code = some h ∧ '(' ∉ parameters ∧ '\n' ∉ parameters ∧
      recursion code = noFinding ∧ (Header.declaration code h).hasCallShape = false ∧
      recursion (h.prototype parameters ++ '\n' :: code) = noFinding := by
  intro code h parameters
  have hh : Header.first? code = some h := by decide +kernel
  have hparameters : '(' ∉ parameters := by decide
  have hbreak : '\n' ∉ parameters := by decide
  have hcode : recursion code = noFinding := by decide +kernel
  have hshape : (Header.declaration code h).hasCallShape = false := by decide +kernel
  exact ⟨hh, hparameters, hbreak, hcode, hshape,
    (recursion_prototype hh hparameters hbreak).2.mpr ⟨hcode, hshape⟩⟩

/-- A prototype may be counted as a call. -/
theorem not_forall_recursion_prototype :
    ¬ ∀ (code parameters : List Char) (h : Header), Header.first? code = some h →
      '(' ∉ parameters → '\n' ∉ parameters → recursion code = noFinding →
        recursion (h.prototype parameters ++ '\n' :: code) = noFinding := by
  intro hall
  have hfound := hall "int f(int n) \x7b\n  return n;\n\x7d".toList "int n".toList
    ⟨0, "int f(".toList, "f".toList⟩ (by decide +kernel) (by decide) (by decide)
    (by decide +kernel)
  revert hfound
  decide +kernel

end SelfCalls

end GrowthScan
