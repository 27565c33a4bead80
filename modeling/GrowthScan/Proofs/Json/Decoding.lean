import GrowthScan.Json.Source.Tree

/-!
# Typed values from trees

A tree is decoded if its parts are: an array if its items are (`Decoder.list_map`), and an object
if each of its members, in the order of the names, fills a field of the record
(`Decoder.record_of_fills`).
-/

namespace GrowthScan.Json.Decoder

variable {α β σ : Type} {d : Decoder α} {f : α → Decoder β} {v : Json} {a : α}

theorem bind_of_ok (h : d v = .ok a) : (d >>= f) v = f a v := by
  show Except.bind (d v) (fun a => f a v) = f a v
  rw [h, Except.bind]

theorem list_map {item : Decoder α} {encode : α → Json} {as : List α}
    (h : ∀ a ∈ as, item (encode a) = .ok a) : list item (.array (as.map encode)) = .ok as := by
  show (as.map encode).mapM item = .ok as
  induction as with
  | nil => rfl
  | cons a as ih =>
    rw [List.forall_mem_cons] at h
    rw [List.map_cons, List.mapM_cons, h.1, ih h.2]
    rfl

/-- Member by member, the fields of these names are set, each for the first time. -/
inductive Fills (fields : List (Field Decoder σ)) : List (String × Json) → σ → σ → Prop where
  | nil (acc : σ) : Fills fields [] acc acc
  | cons {f : Field Decoder σ} {name : String} {v : Json} {ms : List (String × Json)}
      {acc acc' acc'' : σ} (hfind : fields.find? (·.name = name) = some f)
      (hset : f.isSet acc = false) (hread : f.read acc v = .ok acc')
      (h : Fills fields ms acc' acc'') : Fills fields ((name, v) :: ms) acc acc''

theorem fieldsByName_of_fills {fields : List (Field Decoder σ)} {ms : List (String × Json)}
    {acc acc' : σ} (h : Fills fields ms acc acc') : fieldsByName fields ms acc = .ok acc' := by
  induction h with
  | nil acc => rfl
  | @cons f name v ms acc acc' acc'' hfind hset hread _ ih =>
    rw [fieldsByName, List.foldlM_cons]
    simp only [hfind, hset, Bool.false_eq_true, ↓reduceIte, hread]
    exact ih

theorem record_of_fills {r : Record Decoder σ α} {ms sorted : List (String × Json)} {acc : σ}
    (hsorted : ms.mergeSort (fun m m' => m.1 ≤ m'.1) = sorted)
    (h : Fills r.fields sorted r.start acc) (hfinish : r.finish acc = .ok a) :
    record r (.object ms) = .ok a := by
  have hfields : fieldsByName r.fields (ms.mergeSort fun m m' => m.1 ≤ m'.1) r.start = .ok acc := by
    rw [hsorted]
    exact fieldsByName_of_fills h
  show Except.bind (fieldsByName r.fields (ms.mergeSort fun m m' => m.1 ≤ m'.1) r.start) _ = _
  rw [hfields]
  simp only [Except.bind, hfinish]

end GrowthScan.Json.Decoder
