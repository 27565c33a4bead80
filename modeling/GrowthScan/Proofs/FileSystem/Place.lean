import GrowthScan.FileSystem
import Mathlib.Data.List.Induction

/-!
# Places in a tree of files

What a place holds after a file was put in somewhere. At its own place the file is found
(`Node.at?_put_self`). Elsewhere directories stay directories, and each name in them stands for
what it stood for, up to what is below it (`Node.at?_put_directory`). This asks for a place that
can hold a file (`Node.CanHold`): directories lead there, and so far it holds a file or nothing.
-/

namespace GrowthScan

namespace Node

/-! ## The entries of a directory -/

theorem lookup_putEntry_self (name : String) (node : Node) (entries : List (String × Node)) :
    (putEntry name node entries).lookup name = some node := by
  induction entries with
  | nil => simp [putEntry]
  | cons e entries ih =>
    obtain ⟨n, old⟩ := e
    rw [putEntry]
    split
    · simp
    · rename_i hne
      have hname : (name == n) = false := by simpa using Ne.symm hne
      rw [List.lookup_cons, hname]
      exact ih

theorem lookup_putEntry_of_ne {name n : String} (h : n ≠ name) (node : Node)
    (entries : List (String × Node)) :
    (putEntry name node entries).lookup n = entries.lookup n := by
  induction entries with
  | nil => simp [putEntry, h]
  | cons e entries ih =>
    obtain ⟨n', old⟩ := e
    rw [putEntry]
    split
    · rename_i heq
      have hn : (n == name) = false := by simpa using h
      rw [List.lookup_cons, List.lookup_cons, heq, hn]
    · rw [List.lookup_cons, List.lookup_cons, ih]

theorem putEntry_putEntry (name : String) (node old : Node) (entries : List (String × Node)) :
    putEntry name node (putEntry name old entries) = putEntry name node entries := by
  induction entries with
  | nil => simp [putEntry]
  | cons e entries ih =>
    obtain ⟨n, old'⟩ := e
    by_cases h : n = name
    · simp [putEntry, h]
    · simp [putEntry, h, ih]

/-! ## Places in a tree -/

variable {root : Node} {place here : List String} {entries : List (String × Node)}

theorem at?_append (root : Node) (front back : List String) :
    at? (front ++ back) root = (at? front root).bind (at? back) := by
  induction front generalizing root with
  | nil => rfl
  | cons name front ih =>
    cases root with
    | directory entries =>
      rw [List.cons_append, at?, at?, Option.bind_assoc]
      exact congrArg _ (funext ih)
    | file content => rfl
    | link target => rfl

theorem at?_cons_eq_some_iff {name : String} {names : List String} {node : Node} :
    at? (name :: names) root = some node ↔
      ∃ entries child, root = directory entries ∧ entries.lookup name = some child ∧
        at? names child = some node := by
  cases root <;> simp [at?, Option.bind_eq_some_iff]

/-- What leads to something leads through directories. -/
theorem at?_of_append {front back : List String} {node : Node}
    (h : at? (front ++ back) root = some node) (hback : back ≠ []) :
    ∃ entries, at? front root = some (directory entries) := by
  obtain ⟨name, names, rfl⟩ := List.exists_cons_of_ne_nil hback
  rw [at?_append, Option.bind_eq_some_iff] at h
  obtain ⟨between, hfront, hnode⟩ := h
  obtain ⟨entries, -, rfl, -⟩ := at?_cons_eq_some_iff.mp hnode
  exact ⟨entries, hfront⟩

theorem at?_dropLast (h : at? here root = some (directory entries)) :
    ∃ entries, at? here.dropLast root = some (directory entries) := by
  rcases List.eq_nil_or_concat here with rfl | ⟨front, name, rfl⟩
  · exact ⟨entries, h⟩
  · rw [List.concat_eq_append] at h ⊢
    rw [List.dropLast_concat]
    exact at?_of_append h (List.cons_ne_nil _ _)

theorem at?_concat (h : at? here root = some (directory entries)) (name : String) :
    at? (here ++ [name]) root = entries.lookup name := by
  rw [at?_append, h, Option.bind_some, at?]
  cases entries.lookup name <;> rfl

/-! ## Putting in a file -/

/-- Whatever stands at the front of the way becomes a directory. -/
theorem put_cons (new : Node) (name : String) (names : List String) (root : Node) :
    ∃ entries, put new (name :: names) root = directory
      (putEntry name (put new names ((entries.lookup name).getD (directory []))) entries) := by
  cases root <;> exact ⟨_, rfl⟩

theorem put_directory (new : Node) (name : String) (names : List String)
    (entries : List (String × Node)) :
    put new (name :: names) (directory entries) = directory
      (putEntry name (put new names ((entries.lookup name).getD (directory []))) entries) :=
  rfl

theorem at?_put_self (new : Node) (place : List String) (root : Node) :
    at? place (put new place root) = some new := by
  induction place generalizing root with
  | nil => rfl
  | cons name names ih =>
    obtain ⟨entries, hput⟩ := put_cons new name names root
    rw [hput, at?, lookup_putEntry_self]
    exact ih _

theorem put_put (new : Node) (place : List String) (root : Node) :
    put new place (put new place root) = put new place root := by
  induction place generalizing root with
  | nil => rfl
  | cons name names ih =>
    obtain ⟨entries, hput⟩ := put_cons new name names root
    rw [hput, put_directory, lookup_putEntry_self, Option.getD_some, ih, putEntry_putEntry]

/-- A file may be put at the place. -/
structure CanHold (root : Node) (place : List String) : Prop where
  above : ∀ front name rest, place = front ++ name :: rest →
    ∃ entries, at? front root = some (directory entries)
  free : ∀ node, at? place root = some node → ∃ content, node = file content

theorem canHold_of_file {content : ByteArray} (h : at? place root = some (file content)) :
    CanHold root place where
  above := by
    rintro front name rest rfl
    exact at?_of_append h (List.cons_ne_nil _ _)
  free node hnode := ⟨content, Option.some.inj (hnode.symm.trans h)⟩

theorem canHold_of_lookup_eq_none {name : String} (h : at? here root = some (directory entries))
    (hname : entries.lookup name = none) : CanHold root (here ++ [name]) where
  above := by
    intro front name' rest heq
    rcases List.eq_nil_or_concat rest with rfl | ⟨rest, last, rfl⟩
    · obtain ⟨rfl, -⟩ := List.append_inj' heq rfl
      exact ⟨entries, h⟩
    · have hhere : here = front ++ name' :: rest := by
        have hconcat : here ++ [name] = (front ++ name' :: rest) ++ [last] := by simp [heq]
        exact (List.append_inj' hconcat rfl).1
      rw [hhere] at h
      exact at?_of_append h (List.cons_ne_nil _ _)
  free node hnode := by
    rw [at?_concat h, hname] at hnode
    cases hnode

theorem CanHold.child {name : String} {names : List String} {child : Node}
    (h : CanHold (directory entries) (name :: names)) (hchild : entries.lookup name = some child) :
    CanHold child names where
  above := by
    rintro front name' rest rfl
    obtain ⟨entries', hfront⟩ := h.above (name :: front) name' rest rfl
    refine ⟨entries', ?_⟩
    rwa [at?, hchild] at hfront
  free node hnode := h.free node (by rw [at?, hchild]; exact hnode)

/-- The directory itself has no room for a file in its place. -/
theorem CanHold.ne_nil (h : CanHold (directory entries) place) : place ≠ [] := by
  rintro rfl
  obtain ⟨content, hfile⟩ := h.free _ rfl
  cases hfile

/-- The same, or directories both. -/
inductive LooksLike : Option Node → Option Node → Prop where
  | same (node? : Option Node) : LooksLike node? node?
  | directories (entries entries' : List (String × Node)) :
      LooksLike (some (directory entries)) (some (directory entries'))

/-- A directory stays one, and of its names only the one of the new file, if it is there, stands for
something else than before. -/
theorem at?_put_directory (hplace : CanHold root place)
    (hhere : at? here root = some (directory entries)) (new : Node) :
    ∃ entries', at? here (put new place root) = some (directory entries') ∧
      ∀ name, here ++ [name] ≠ place → LooksLike (entries.lookup name) (entries'.lookup name) := by
  induction here generalizing root place with
  | nil =>
    cases Option.some.inj hhere
    obtain ⟨name, names, rfl⟩ := List.exists_cons_of_ne_nil hplace.ne_nil
    refine ⟨_, rfl, fun n hn => ?_⟩
    by_cases hname : n = name
    · subst hname
      -- the way to the place goes on through this name
      cases names with
      | nil => exact absurd rfl hn
      | cons m names =>
        obtain ⟨below, hbelow⟩ := hplace.above [n] m names rfl
        obtain ⟨_, child, hentries, hchild, hdirectory⟩ := at?_cons_eq_some_iff.mp hbelow
        cases hentries
        cases Option.some.inj hdirectory
        rw [lookup_putEntry_self, hchild]
        exact .directories _ _
    · rw [lookup_putEntry_of_ne hname]
      exact .same _
  | cons n ns ih =>
    obtain ⟨above, child, rfl, hchild, hns⟩ := at?_cons_eq_some_iff.mp hhere
    obtain ⟨name, names, rfl⟩ := List.exists_cons_of_ne_nil hplace.ne_nil
    by_cases hname : n = name
    · subst hname
      obtain ⟨entries', hentries', hlike⟩ := ih (hplace.child hchild) hns
      refine ⟨entries', ?_, fun m hm => hlike m fun heq => hm ?_⟩
      · rw [put_directory, at?, lookup_putEntry_self, hchild]
        exact hentries'
      · rw [List.cons_append, heq]
    · refine ⟨entries, ?_, fun m _ => .same _⟩
      rw [put_directory, at?, lookup_putEntry_of_ne hname, hchild]
      exact hns

end Node

end GrowthScan
