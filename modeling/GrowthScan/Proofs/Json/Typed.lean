import GrowthScan.Json.Source.Text
import GrowthScan.Proofs.Json.Reading
import Mathlib.Data.List.Forall2

/-!
# Reading typed values

What the readers of typed values do, in both directions. `Takes` says that a reader turns one
JSON value, in any spelling and whatever follows it, into a typed one: lists and records take a
value if their items and fields take its parts (`Takes.list`, `Takes.record`). `Gives` says what
holds of all that a reader ever gives, whatever the text: lists and records give what their items
and fields give (`Gives.list`, `Gives.record`).
-/

namespace GrowthScan.Json

namespace Reader

variable {α β σ : Type} {r : Reader α} {f : α → Reader β} {a : α} {s rest : List Char}

theorem placed_of_ok (h : r s = .ok a rest) : placed r s = .ok a rest := by
  rw [placed, h]

theorem closedBy_of_ok {close : Reader Unit} {s' : List Char} (h : r s = .ok a s')
    (hclose : close s' = .ok () rest) : closedBy close r s = .ok a rest := by
  rw [closedBy, h]
  exact bind_of_ok (f := fun _ => pure a) hclose

/-! ## What is read of a value -/

/-- In front of anything, the reader takes just a spelling of `v` and reads it as `a`. -/
def Takes (r : Reader α) (v : Json) (a : α) : Prop :=
  ∀ t, Spells (.value v) t → ∀ rest, r (t ++ rest) = .ok a rest

theorem Takes.bind {v : Json} {b : β} (h : Takes r v a) (hf : ∀ s, f a s = .ok b s) :
    Takes (r >>= f) v b :=
  fun t ht rest => (bind_of_ok (h t ht rest)).trans (hf rest)

theorem takes_string (s : String) : Takes string (.string s) s := by
  intro t ht rest
  cases ht with
  | string hb =>
    rw [List.append_assoc, quote_append, string,
      bind_of_ok (nextOfValue_append hb (by decide) _), if_pos rfl]
    exact text_append s rest

theorem takes_orNull_null : Takes (orNull r) .null none := by
  intro t ht rest
  cases ht with
  | null hb =>
    have hnext : next? (_ ++ ("null".toList ++ rest)) = .ok (some 'n') ("null".toList ++ rest) :=
      (next?_append hb _).trans (next?_cons (by decide) _)
    rw [List.append_assoc, orNull, bind_of_ok hnext]
    rfl

theorem Takes.orNull_string {s : String} (h : Takes r (.string s) a) :
    Takes (orNull r) (.string s) (some a) := by
  intro t ht rest
  cases ht with
  | string hb =>
    have hread := h (quote s) (.string blanks_nil s) rest
    rw [quote_append] at hread
    rw [List.append_assoc, quote_append, orNull,
      bind_of_ok ((next?_append hb _).trans (next?_cons (by decide) _)), if_neg (by decide)]
    exact bind_of_ok (f := fun a => pure (some a)) hread

/-- An option is taken by its name. -/
theorem takes_choice {options : List (String × α)} {name : String}
    (h : options.lookup name = some a) : Takes (choice options) (.string name) a := by
  intro t ht rest
  cases ht with
  | string hb =>
    -- the quote was only looked at, and is looked at once more
    have hagain (s : List Char) : nextOfValue ('"' :: s) = .ok '"' ('"' :: s) :=
      nextOfValue_append blanks_nil (by decide) s
    rw [List.append_assoc, quote_append, choice,
      bind_of_ok (nextOfValue_append hb (by decide) _), if_pos rfl, option,
      bind_of_ok (hagain _), if_pos rfl]
    refine (bind_of_ok (text_append name rest)).trans ?_
    rw [h]
    rfl

theorem itemsOf_append {item : Reader α} {vs : List Json} {as : List α}
    (h : List.Forall₂ (Takes item) vs as) {first : Bool} {t : List Char}
    (ht : Spells (.items first vs) t) {fuel : Nat} (hfuel : t.length ≤ fuel) (rest : List Char) :
    itemsOf item fuel first (t ++ rest) = .ok as (']' :: rest) := by
  induction h generalizing first t fuel with
  | nil =>
    obtain ⟨fuel, rfl⟩ := ht.exists_fuel hfuel
    cases ht with
    | endOfItems hb =>
      rw [List.append_assoc, List.singleton_append, itemsOf, bind_of_ok (hasItem_end hb first _)]
      rfl
  | @cons v a vs as hitem _ ih =>
    obtain ⟨fuel, rfl⟩ := ht.exists_fuel hfuel
    cases ht with
    | @item b t u _ _ _ hb hv hvs =>
      have hpos := hv.length_pos
      obtain ⟨b', t', rfl, hb', ht', hhas⟩ := hasItem_value hb hv first (u ++ rest)
      simp only [List.length_append] at hfuel hpos
      rw [List.append_assoc, itemsOf, bind_of_ok hhas]
      exact (bind_of_ok (hitem t' ht' _)).trans
        (bind_of_ok (f := fun as => pure (a :: as)) (ih hvs (by omega)))

theorem Takes.list {item : Reader α} {vs : List Json} {as : List α}
    (h : List.Forall₂ (Takes item) vs as) : Takes (list item) (.array vs) as := by
  intro t ht rest
  cases ht with
  | @array b t _ hb ht =>
    have hitems : itemsOf item (enough (t ++ rest)) true (t ++ rest) = .ok as (']' :: rest) :=
      itemsOf_append h ht (by simp only [enough, List.length_append]; omega) rest
    refine placed_of_ok ?_
    rw [List.append_assoc, List.cons_append,
      bind_of_ok (nextOfValue_append hb (by decide) _), if_pos rfl]
    exact closedBy_of_ok hitems (endOfList_append blanks_nil rest)

/-- Member by member, the fields of these names are set, each for the first time. -/
inductive Fills (fields : List (Field Reader σ)) : List (String × Json) → σ → σ → Prop where
  | nil (acc : σ) : Fills fields [] acc acc
  | cons {f : Field Reader σ} {name : String} {v : Json} {ms : List (String × Json)}
      {acc acc' acc'' : σ} (hfind : fields.find? (·.name = name) = some f)
      (hset : f.isSet acc = false) (hread : Takes (f.read acc) v acc')
      (h : Fills fields ms acc' acc'') : Fills fields ((name, v) :: ms) acc acc''

theorem fieldsByName_append {fields : List (Field Reader σ)} {ms : List (String × Json)}
    {acc acc' : σ} (h : Fills fields ms acc acc') {first : Bool} {t : List Char}
    (ht : Spells (.members first ms) t) {fuel : Nat} (hfuel : t.length ≤ fuel)
    (rest : List Char) :
    fieldsByName fields fuel first acc (t ++ rest) = .ok acc' ('}' :: rest) := by
  induction h generalizing first t fuel with
  | nil acc =>
    obtain ⟨fuel, rfl⟩ := ht.exists_fuel hfuel
    cases ht with
    | endOfMembers hb =>
      rw [List.append_assoc, List.singleton_append, fieldsByName,
        bind_of_ok (hasMember_end hb first _)]
      rfl
  | @cons f name v ms acc acc' acc'' hfind hset hread _ ih =>
    obtain ⟨fuel, rfl⟩ := ht.exists_fuel hfuel
    cases ht with
    | @member b b' b'' t u _ _ _ _ hb hb' hb'' hv hms =>
      simp only [List.length_append, List.length_cons] at hfuel
      rw [member_append, fieldsByName, bind_of_ok (hasMember_quote hb hb' first _)]
      refine (bind_of_ok (text_append name _)).trans ?_
      simp only [hfind, hset, Bool.false_eq_true, ↓reduceIte]
      refine (bind_of_ok (colon_append hb'' _)).trans ?_
      exact (bind_of_ok (hread t hv _)).trans (ih hms (by omega))

theorem Takes.record {r : Record Reader σ α} {ms : List (String × Json)} {acc : σ} {a : α}
    (h : Fills r.fields ms r.start acc) (hfinish : r.finish acc = .ok a) :
    Takes (record r) (.object ms) a := by
  intro t ht rest
  cases ht with
  | @object b t _ hb ht =>
    have hfields : fieldsByName r.fields (enough (t ++ rest)) true r.start (t ++ rest) =
        .ok acc ('}' :: rest) :=
      fieldsByName_append h ht (by simp only [enough, List.length_append]; omega) rest
    refine placed_of_ok ?_
    rw [List.append_assoc, List.cons_append,
      bind_of_ok (nextOfValue_append hb (by decide) _), if_neg (by decide), if_pos rfl]
    refine closedBy_of_ok ((bind_of_ok hfields).trans ?_) (endOfObject_append blanks_nil rest)
    rw [hfinish]
    rfl

/-! ## What a reader ever gives -/

/-- All that the reader reads has the property. -/
def Gives (r : Reader α) (P : α → Prop) : Prop := ∀ s a rest, r s = .ok a rest → P a

namespace Gives

variable {P : α → Prop} {Q : β → Prop}

theorem trivial (r : Reader α) : Gives r fun _ => True := fun _ _ _ _ => True.intro

theorem pure (h : P a) : Gives (pure a) P := by
  intro s a' rest hread
  cases hread
  exact h

theorem refuse (fault : Fault) : Gives (refuse fault) P := nofun

theorem fail (fault : Fault) : Gives (fail fault) P := nofun

theorem failAhead (fault : Fault) : Gives (failAhead fault) P := nofun

theorem bind (h : Gives r P) (hf : ∀ a, P a → Gives (f a) Q) : Gives (r >>= f) Q := by
  intro s b rest hread
  replace hread : EStateM.bind r f s = .ok b rest := hread
  rw [EStateM.bind] at hread
  split at hread
  · rename_i a s' hr
    exact hf a (h s a s' hr) s' b rest hread
  · cases hread

/-- Nothing is known of what is read first. -/
theorem andThen (hf : ∀ a, Gives (f a) Q) : Gives (r >>= f) Q :=
  (trivial r).bind fun a _ => hf a

theorem wrongKind (expected : String) : Gives (wrongKind expected) P :=
  andThen fun _ => fail _

theorem placed (h : Gives r P) : Gives (placed r) P := by
  intro s a rest hread
  rw [Reader.placed] at hread
  split at hread <;> cases hread
  exact h _ _ _ ‹_›

theorem closedBy (close : Reader Unit) (h : Gives r P) : Gives (closedBy close r) P := by
  intro s a rest hread
  rw [Reader.closedBy] at hread
  split at hread
  · rename_i a' rest' hr
    exact andThen (fun _ => pure (h _ _ _ hr)) _ _ _ hread
  · split at hread <;> cases hread

theorem itemsOf {item : Reader α} (h : Gives item P) (fuel : Nat) (first : Bool) :
    Gives (itemsOf item fuel first) fun as => ∀ a ∈ as, P a := by
  induction fuel generalizing first with
  | zero => exact failAhead _
  | succ fuel ih =>
    rw [Reader.itemsOf]
    refine andThen fun goesOn => ?_
    split
    · exact h.bind fun a ha => (ih false).bind fun as has =>
        pure (List.forall_mem_cons.mpr ⟨ha, has⟩)
    · exact pure nofun

theorem list {item : Reader α} (h : Gives item P) :
    Gives (list item) fun as => ∀ a ∈ as, P a := by
  refine placed (andThen fun c => ?_)
  split
  · exact andThen fun _ => closedBy _ fun s => h.itemsOf (enough s) true s
  · exact wrongKind _

theorem orNull (h : Gives r P) : Gives (orNull r) fun a? => ∀ a ∈ a?, P a := by
  refine andThen fun c => ?_
  split
  · exact andThen fun _ => andThen fun _ => pure nofun
  · exact h.bind fun a ha => pure fun _ hmem => by cases hmem; exact ha

variable {K : σ → Prop} {fields : List (Field Reader σ)}

theorem fieldsInOrder (h : ∀ f ∈ fields, ∀ acc, K acc → Gives (f.read acc) K) (first : Bool)
    {acc : σ} (hacc : K acc) : Gives (fieldsInOrder first acc fields) K := by
  induction fields generalizing first acc with
  | nil => exact pure hacc
  | cons f fs ih =>
    rw [List.forall_mem_cons] at h
    refine andThen fun goesOn => ?_
    split
    · exact (h.1 acc hacc).bind fun acc' hacc' => ih h.2 false hacc'
    · exact pure hacc

theorem fieldsByName (h : ∀ f ∈ fields, ∀ acc, K acc → Gives (f.read acc) K) (fuel : Nat)
    (first : Bool) {acc : σ} (hacc : K acc) : Gives (fieldsByName fields fuel first acc) K := by
  induction fuel generalizing first acc with
  | zero => exact failAhead _
  | succ fuel ih =>
    rw [Reader.fieldsByName]
    refine andThen fun goesOn => ?_
    split
    · refine andThen fun _ => andThen fun name => ?_
      split
      · exact andThen fun _ => andThen fun _ => ih false hacc
      · rename_i f hfind
        have hread := h f (List.mem_of_find?_eq_some hfind) acc hacc
        split
        · exact refuse _
        · exact andThen fun _ => hread.bind fun acc' hacc' => ih false hacc'
    · exact pure hacc

/-- What every field keeps of what was met so far holds of what the record is made of. -/
theorem record {r : Record Reader σ α} (hstart : K r.start)
    (hfields : ∀ f ∈ r.fields, ∀ acc, K acc → Gives (f.read acc) K)
    (hfinish : ∀ acc a, K acc → r.finish acc = .ok a → P a) : Gives (record r) P := by
  refine placed (andThen fun c => ?_)
  split
  · refine andThen fun _ => closedBy _ ((fieldsInOrder hfields true hstart).bind fun acc hacc => ?_)
    split
    · exact pure (hfinish acc _ hacc ‹_›)
    · exact refuse _
  · split
    · refine andThen fun _ => closedBy _ (bind (P := K)
        (fun s => fieldsByName hfields (enough s) true hstart s) fun acc hacc => ?_)
      split
      · exact pure (hfinish acc _ hacc ‹_›)
      · exact refuse _
    · exact wrongKind _

end Gives

end Reader

/-! ## Whole texts -/

variable {α : Type} {r : Reader α}

theorem read_of_takes {v : Json} {a : α} {t : List Char} (h : Reader.Takes r v a)
    (ht : Spells (.value v) t) : read r t = .ok a := by
  have hread := h t ht []
  rw [List.append_nil] at hread
  exact read_of_ok hread blanks_nil

theorem eq_ok_of_mapError {ε ε' : Type} {f : ε → ε'} {x : Except ε α} {a : α}
    (h : x.mapError f = .ok a) : x = .ok a := by
  cases x with
  | error e => cases h
  | ok b =>
    cases h
    rfl

theorem eq_ok_of_toOption {ε : Type} {x : Except ε α} {a : α} (h : x.toOption = some a) :
    x = .ok a := by
  cases x with
  | error e => cases h
  | ok b =>
    cases h
    rfl

theorem of_read_eq_ok {P : α → Prop} {text : List Char} {a : α} (h : Reader.Gives r P)
    (hread : read r text = .ok a) : P a := by
  rw [read] at hread
  split at hread
  · rename_i a' rest hr
    cases hread
    exact h.bind (fun a ha => .andThen fun _ => .pure ha) _ _ _ hr
  · cases hread

end GrowthScan.Json
