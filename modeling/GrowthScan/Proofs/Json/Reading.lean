import GrowthScan.Json.Tree
import GrowthScan.Proofs.Json.Spelling

/-!
# Reading what was written

Every text of `Spells` is read back as the value that it spells. The readers take their text off
the front, so each statement is about a text in front of any other: `restores_of_spells` is the
induction over the grammar, `tree_append` frees it of the fuel, and `ofText_of_spells` is about
the text as a whole.
-/

namespace GrowthScan.Json.Reader

variable {α β : Type} {r : Reader α} {f : α → Reader β} {a : α} {s rest : List Char}

theorem bind_of_ok (h : r s = .ok a rest) : (r >>= f) s = f a rest := by
  show EStateM.bind r f s = f a rest
  rw [EStateM.bind, h]

/-! ## Blanks -/

theorem next?_append {b : List Char} (hb : Blanks b) (s : List Char) :
    next? (b ++ s) = next? s := by
  rw [next?, next?, List.dropWhile_append_of_pos hb]

theorem next?_cons {c : Char} (hc : isBlank c = false) (s : List Char) :
    next? (c :: s) = .ok (some c) (c :: s) := by
  rw [next?, List.dropWhile_cons_of_neg (by rw [hc]; exact Bool.false_ne_true)]
  rfl

theorem nextOfValue_append {b : List Char} (hb : Blanks b) {c : Char} (hc : isBlank c = false)
    (s : List Char) : nextOfValue (b ++ c :: s) = .ok c (c :: s) := by
  rw [nextOfValue, bind_of_ok ((next?_append hb _).trans (next?_cons hc s))]
  rfl

theorem colon_append {b : List Char} (hb : Blanks b) (s : List Char) :
    colon (b ++ ':' :: s) = .ok () s := by
  rw [colon, bind_of_ok ((next?_append hb _).trans (next?_cons (by decide) s))]
  rfl

theorem endOfList_append {b : List Char} (hb : Blanks b) (s : List Char) :
    endOfList (b ++ ']' :: s) = .ok () s := by
  rw [endOfList, bind_of_ok ((next?_append hb _).trans (next?_cons (by decide) s))]
  rfl

theorem endOfObject_append {b : List Char} (hb : Blanks b) (s : List Char) :
    endOfObject (b ++ '}' :: s) = .ok () s := by
  rw [endOfObject, bind_of_ok ((next?_append hb _).trans (next?_cons (by decide) s))]
  rfl

theorem endOfText_of_blanks {b : List Char} (hb : Blanks b) : endOfText b = .ok () [] := by
  have hnext : next? b = .ok none [] := by
    rw [← List.append_nil b, next?_append hb]
    rfl
  rw [endOfText, bind_of_ok hnext]
  rfl

/-! ## Strings -/

theorem stringBody_quote (s : List Char) : stringBody ('"' :: s) = .ok [] s := by
  rw [stringBody.eq_def]
  rfl

theorem stringBody_of_plain {c : Char} (hquote : c ≠ '"') (hslash : c ≠ '\\')
    (hc : 0x20 ≤ c.toNat) (s : List Char) :
    stringBody (c :: s) = stringBody.consTo c (stringBody s) := by
  rw [stringBody.eq_def]
  simp only [if_neg hquote, if_neg (Nat.not_lt.mpr hc), if_pos hslash]

theorem stringBody_of_short {e c : Char} (h : shortEscape? e = some c) (s : List Char) :
    stringBody ('\\' :: e :: s) = stringBody.consTo c (stringBody s) := by
  rw [stringBody.eq_def]
  simp [h]

theorem stringBody_of_numbered {a b c d : Char} {n : Nat} (h : hexNumber? a b c d = some n)
    (hn : n < 0xD800) (s : List Char) :
    stringBody ('\\' :: 'u' :: a :: b :: c :: d :: s) =
      stringBody.consTo (Char.ofNat n) (stringBody s) := by
  have hlow : isLowSurrogate n = false := by simp only [isLowSurrogate]; simp; omega
  have hhigh : isHighSurrogate n = false := by simp only [isHighSurrogate]; simp; omega
  rw [stringBody.eq_def]
  simp [shortEscape?, h, hlow, hhigh]

/-- The two digits of a control character. -/
theorem hex_of_control : ∀ n < 0x20,
    (if n < 0x10 then ['0'] else []) ++ Text.hex n =
      [Nat.digitChar (n / 16), Nat.digitChar (n % 16)] ∧
    hexNumber? '0' '0' (Nat.digitChar (n / 16)) (Nat.digitChar (n % 16)) = some n := by
  decide

/-- An escaped character is read as the character. -/
theorem stringBody_escaped (c : Char) (s : List Char) :
    stringBody (escaped c ++ s) = stringBody.consTo c (stringBody s) := by
  unfold escaped
  split
  case h_8 hquote hslash _ _ _ _ _ =>
    split
    · rename_i hc
      obtain ⟨hhex, hnumber⟩ := hex_of_control c.toNat hc
      rw [List.append_assoc ['\\', 'u', '0', '0'], hhex]
      exact (stringBody_of_numbered hnumber (by omega) s).trans (by rw [Char.ofNat_toNat])
    · rename_i hc
      exact stringBody_of_plain hquote hslash (Nat.not_lt.mp hc) s
  all_goals exact stringBody_of_short rfl s

theorem stringBody_append_quote (cs s : List Char) :
    stringBody (cs.flatMap escaped ++ '"' :: s) = .ok cs s := by
  induction cs with
  | nil => exact stringBody_quote s
  | cons c cs ih =>
    rw [List.flatMap_cons, List.append_assoc, stringBody_escaped, ih]
    rfl

/-- Behind its opening quote, a string that was written is read. -/
theorem text_append (name : String) (s : List Char) :
    text (name.toList.flatMap escaped ++ '"' :: s) = .ok name s := by
  rw [text, bind_of_ok (stringBody_append_quote _ s), String.ofList_toList]
  rfl

theorem quote_append (name : String) (s : List Char) :
    quote name ++ s = '"' :: (name.toList.flatMap escaped ++ '"' :: s) := by
  rw [quote, List.append_assoc, List.append_assoc]
  rfl

/-! ## Items and members -/

/-- A value starts with some sign that ends nothing. -/
theorem exists_start {v : Json} {t : List Char} (h : Spells (.value v) t) :
    ∃ b c u, t = b ++ c :: u ∧ Blanks b ∧ isBlank c = false ∧ c ≠ ']' ∧ c ≠ ',' ∧
      Spells (.value v) (c :: u) := by
  have hstart (b : List Char) (hb : Blanks b) (c : Char) (u : List Char)
      (hc : isBlank c = false ∧ c ≠ ']' ∧ c ≠ ',') (hu : Spells (.value v) (c :: u)) :
      ∃ b' c' u', b ++ c :: u = b' ++ c' :: u' ∧ Blanks b' ∧ isBlank c' = false ∧ c' ≠ ']' ∧
        c' ≠ ',' ∧ Spells (.value v) (c' :: u') :=
    ⟨b, c, u, rfl, hb, hc.1, hc.2.1, hc.2.2, hu⟩
  cases h with
  | null hb => exact hstart _ hb _ _ (by decide) (.null blanks_nil)
  | bool hb x => cases x <;> exact hstart _ hb _ _ (by decide) (.bool blanks_nil _)
  | string hb s => exact hstart _ hb _ _ (by decide) (.string blanks_nil s)
  | array hb h => exact hstart _ hb _ _ (by decide) (.array blanks_nil h)
  | object hb h => exact hstart _ hb _ _ (by decide) (.object blanks_nil h)

theorem hasItem_end {b : List Char} (hb : Blanks b) (first : Bool) (s : List Char) :
    hasItem first (b ++ ']' :: s) = .ok false (']' :: s) := by
  rw [hasItem, bind_of_ok ((next?_append hb _).trans (next?_cons (by decide) s))]
  rfl

theorem hasMember_end {b : List Char} (hb : Blanks b) (first : Bool) (s : List Char) :
    hasMember first (b ++ '}' :: s) = .ok false ('}' :: s) := by
  rw [hasMember, bind_of_ok ((next?_append hb _).trans (next?_cons (by decide) s))]
  rfl

/-- An array goes on where a value is spelled behind what separates it. -/
theorem hasItem_value {b t : List Char} {v : Json} (hb : Blanks b) (h : Spells (.value v) t)
    (first : Bool) (s : List Char) :
    ∃ b' u, t = b' ++ u ∧ Blanks b' ∧ Spells (.value v) u ∧
      hasItem first (b ++ separator first ++ t ++ s) = .ok true (u ++ s) := by
  obtain ⟨b', c, u, rfl, hb', hblank, hend, hcomma, hu⟩ := exists_start h
  refine ⟨b', c :: u, rfl, hb', hu, ?_⟩
  cases first with
  | true =>
    have htext : b ++ separator true ++ (b' ++ c :: u) ++ s = (b ++ b') ++ c :: (u ++ s) := by
      simp [separator]
    rw [htext, hasItem, bind_of_ok ((next?_append (hb.append hb') _).trans (next?_cons hblank _))]
    simp only [↓reduceIte]
    rfl
  | false =>
    have htext : b ++ separator false ++ (b' ++ c :: u) ++ s =
        b ++ ',' :: (b' ++ c :: (u ++ s)) := by
      simp [separator]
    have hnext : next? (b' ++ c :: (u ++ s)) = .ok (some c) (c :: (u ++ s)) :=
      (next?_append hb' _).trans (next?_cons hblank _)
    have hadvance : advance (',' :: (b' ++ c :: (u ++ s))) = .ok () (b' ++ c :: (u ++ s)) := rfl
    rw [htext, hasItem, bind_of_ok ((next?_append hb _).trans (next?_cons (by decide) _))]
    simp only [Bool.false_eq_true, ↓reduceIte]
    rw [bind_of_ok hadvance, bind_of_ok hnext]
    simp only
    rfl

/-- An object goes on where a name is quoted behind what separates it. -/
theorem hasMember_quote {b b' : List Char} (hb : Blanks b) (hb' : Blanks b') (first : Bool)
    (s : List Char) :
    hasMember first (b ++ separator first ++ b' ++ '"' :: s) = .ok true ('"' :: s) := by
  cases first with
  | true =>
    have htext : b ++ separator true ++ b' ++ '"' :: s = (b ++ b') ++ '"' :: s := by
      simp [separator]
    rw [htext, hasMember,
      bind_of_ok ((next?_append (hb.append hb') _).trans (next?_cons (by decide) _))]
    rfl
  | false =>
    have htext : b ++ separator false ++ b' ++ '"' :: s = b ++ ',' :: (b' ++ '"' :: s) := by
      simp [separator]
    have hnext : next? (b' ++ '"' :: s) = .ok (some '"') ('"' :: s) :=
      (next?_append hb' _).trans (next?_cons (by decide) _)
    have hadvance : advance (',' :: (b' ++ '"' :: s)) = .ok () (b' ++ '"' :: s) := rfl
    rw [htext, hasMember, bind_of_ok ((next?_append hb _).trans (next?_cons (by decide) _))]
    simp only [Bool.false_eq_true, ↓reduceIte]
    rw [bind_of_ok hadvance, bind_of_ok hnext]
    rfl

/-- A member, part by part as it is read. -/
theorem member_append (b b' b'' t u rest : List Char) (first : Bool) (name : String) :
    b ++ separator first ++ b' ++ quote name ++ b'' ++ ':' :: t ++ u ++ rest =
      b ++ separator first ++ b' ++ '"' :: (name.toList.flatMap escaped ++
        '"' :: (b'' ++ ':' :: (t ++ (u ++ rest)))) := by
  simp [quote]

/-! ## Whole values -/

/-- With fuel for the text, the phrase is read back from it, whatever follows. -/
def Restores : Phrase → List Char → Prop
  | .value v, t => ∀ fuel, t.length ≤ fuel → ∀ rest, value keeping fuel (t ++ rest) = .ok v rest
  | .items first vs, t => ∀ fuel, t.length ≤ fuel → ∀ rest,
    items keeping fuel first (t ++ rest) = .ok vs rest
  | .members first ms, t => ∀ fuel, t.length ≤ fuel → ∀ rest,
    members keeping fuel first (t ++ rest) = .ok ms rest

theorem nextOfValue_blanks {b : List Char} (hb : Blanks b) (s : List Char) :
    nextOfValue (b ++ s) = nextOfValue s := by
  show (next? >>= _) (b ++ s) = (next? >>= _) s
  show EStateM.bind next? _ (b ++ s) = EStateM.bind next? _ s
  rw [EStateM.bind, EStateM.bind, next?_append hb]

theorem value_blanks {κ : Type} (builder : Builder α κ) {b : List Char} (hb : Blanks b)
    (fuel : Nat) (s : List Char) :
    value builder (fuel + 1) (b ++ s) = value builder (fuel + 1) s := by
  rw [value]
  show EStateM.bind nextOfValue _ (b ++ s) = EStateM.bind nextOfValue _ s
  rw [EStateM.bind, EStateM.bind, nextOfValue_blanks hb]

/-- By induction over the grammar: blanks are passed over, and the parts leave enough fuel for one
another. -/
theorem restores_of_spells {p : Phrase} {t : List Char} (h : Spells p t) : Restores p t := by
  induction h with
  | @null b hb =>
    intro fuel hfuel rest
    obtain ⟨fuel, rfl⟩ := (Spells.null hb).exists_fuel hfuel
    rw [List.append_assoc, value_blanks _ hb]
    rfl
  | @bool b hb x =>
    intro fuel hfuel rest
    obtain ⟨fuel, rfl⟩ := (Spells.bool hb x).exists_fuel hfuel
    rw [List.append_assoc, value_blanks _ hb]
    cases x <;> rfl
  | @string b hb s =>
    intro fuel hfuel rest
    obtain ⟨fuel, rfl⟩ := (Spells.string hb s).exists_fuel hfuel
    rw [List.append_assoc, value_blanks _ hb, quote_append]
    exact bind_of_ok (f := fun s => pure (Json.string s)) (text_append s rest)
  | @array b t vs hb ht ih =>
    intro fuel hfuel rest
    obtain ⟨fuel, rfl⟩ := (Spells.array hb ht).exists_fuel hfuel
    simp only [List.length_append, List.length_cons] at hfuel
    rw [List.append_assoc, value_blanks _ hb]
    exact bind_of_ok (f := fun vs => pure (Json.array vs)) (ih fuel (by omega) rest)
  | @object b t ms hb ht ih =>
    intro fuel hfuel rest
    obtain ⟨fuel, rfl⟩ := (Spells.object hb ht).exists_fuel hfuel
    simp only [List.length_append, List.length_cons] at hfuel
    rw [List.append_assoc, value_blanks _ hb]
    exact bind_of_ok (f := fun ms => pure (Json.object ms)) (ih fuel (by omega) rest)
  | @endOfItems b first hb =>
    intro fuel hfuel rest
    have hend : Spells (.items first []) (b ++ [']']) := .endOfItems hb
    obtain ⟨fuel, rfl⟩ := hend.exists_fuel hfuel
    rw [List.append_assoc, items, List.singleton_append, bind_of_ok (hasItem_end hb first rest)]
    rfl
  | @item b t u first v vs hb hv hvs ihv ih =>
    intro fuel hfuel rest
    obtain ⟨fuel, rfl⟩ := (Spells.item hb hv hvs).exists_fuel hfuel
    obtain ⟨b', t', rfl, hb', ht', hitem⟩ := hasItem_value hb hv first (u ++ rest)
    have hpos := hv.length_pos
    have hlast := hvs.length_pos
    simp only [List.length_append] at hfuel hpos
    have hle : u.length ≤ fuel := by omega
    obtain ⟨n, rfl⟩ := hvs.exists_fuel hle
    -- the blanks in front of the value were passed over with what separates it
    have hvalue : value keeping (n + 1) (t' ++ (u ++ rest)) = .ok v (u ++ rest) := by
      rw [← value_blanks keeping hb', ← List.append_assoc]
      exact ihv (n + 1) (by rw [List.length_append]; omega) _
    rw [List.append_assoc, items, bind_of_ok hitem]
    exact (bind_of_ok hvalue).trans
      (bind_of_ok (f := fun vs => pure (v :: vs)) (ih (n + 1) (by omega) rest))
  | @endOfMembers b first hb =>
    intro fuel hfuel rest
    have hend : Spells (.members first []) (b ++ ['}']) := .endOfMembers hb
    obtain ⟨fuel, rfl⟩ := hend.exists_fuel hfuel
    rw [List.append_assoc, members, List.singleton_append,
      bind_of_ok (hasMember_end hb first rest)]
    rfl
  | @member b b' b'' t u first name v ms hb hb' hb'' hv hms ihv ih =>
    intro fuel hfuel rest
    obtain ⟨fuel, rfl⟩ := (Spells.member hb hb' hb'' hv hms).exists_fuel hfuel
    simp only [List.length_append, List.length_cons] at hfuel
    rw [member_append, members, bind_of_ok (hasMember_quote hb hb' first _)]
    refine (bind_of_ok (text_append name _)).trans ?_
    refine (bind_of_ok (colon_append hb'' _)).trans ?_
    exact (bind_of_ok (ihv fuel (by omega) _)).trans
      (bind_of_ok (f := fun ms => pure ((name, v) :: ms)) (ih fuel (by omega) rest))

theorem tree_append {v : Json} {t : List Char} (h : Spells (.value v) t) (rest : List Char) :
    tree (t ++ rest) = .ok v rest :=
  restores_of_spells h _ (by simp only [enough, List.length_append]; omega) rest

end Reader

theorem read_of_ok {r : Reader α} {a : α} {text b : List Char} (h : r text = .ok a b)
    (hb : Blanks b) : read r text = .ok a := by
  have htext : (do let a ← r; Reader.endOfText; return a : Reader α) text = .ok a [] :=
    (Reader.bind_of_ok h).trans (Reader.bind_of_ok (Reader.endOfText_of_blanks hb))
  rw [read, htext]

/-- A text that spells a value is read as the value, and blanks may follow it. -/
theorem ofText_of_spells {v : Json} {t b : List Char} (h : Spells (.value v) t) (hb : Blanks b) :
    ofText (t ++ b) = .ok v :=
  read_of_ok (Reader.tree_append h b) hb

end GrowthScan.Json
