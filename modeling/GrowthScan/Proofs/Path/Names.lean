import GrowthScan.Path

/-!
# Names and the paths they make

`IsName` tells the names that an entry of a directory may have. Joining names to a
path one by one is joining them with slashes (`foldl_join`), adds these names to the
parts of the path (`parts_foldl_join`), and so different names lead to different
paths (`foldl_join_injOn`). The last name alone tells the extension
(`extension?_foldl_join`). Names joined with slashes do not start with the part `.`
(`withoutHere_intercalate`).
-/

namespace GrowthScan.Path

/-- Whether an entry of a directory may have this name. -/
def IsName (name : String) : Prop :=
  name ≠ "" ∧ '/' ∉ name.toList ∧ name ≠ "." ∧ name ≠ ".."

instance : DecidablePred IsName := fun name =>
  inferInstanceAs (Decidable (name ≠ "" ∧ '/' ∉ name.toList ∧ name ≠ "." ∧ name ≠ ".."))

variable {dir name : String} {names : List String}

/-! ## Parts -/

theorem toList_ne_nil_of_isName (h : IsName name) : name.toList ≠ [] := fun hnil =>
  h.1 (String.toList_eq_nil_iff.mp hnil)

theorem parts_of_isName (h : IsName name) : parts name = [name] := by
  have hdot : name.toList ≠ ['.'] := fun hdot =>
    h.2.2.1 (String.toList_inj.mp (hdot.trans (by decide : ['.'] = ".".toList)))
  rw [parts, List.splitOn_eq_singleton h.2.1]
  simp [toList_ne_nil_of_isName h, hdot]

theorem parts_append_slash (dir name : String) :
    parts (dir ++ "/" ++ name) = parts dir ++ parts name := by
  have htext : (dir ++ "/" ++ name).toList = dir.toList ++ '/' :: name.toList := by simp
  rw [parts, htext, List.splitOn_append_cons_self, List.filter_append, List.map_append]
  rfl

/-- A slash at the end adds no part. -/
theorem parts_slash (dir : String) : parts (dir ++ "/") = parts dir := by
  have h := parts_append_slash dir ""
  rw [String.append_empty] at h
  rw [h]
  exact List.append_nil _

theorem parts_join (h : IsName name) : parts (join dir name) = parts dir ++ [name] := by
  rw [join]
  split
  · rename_i hdir
    rw [Bool.or_eq_true, decide_eq_true_eq, List.getLast?_eq_some_iff] at hdir
    rcases hdir with hdir | ⟨front, hfront⟩
    · rw [String.isEmpty_iff.mp hdir, String.empty_append, parts_of_isName h]
      rfl
    · have hslash : dir = String.ofList front ++ "/" := by
        rw [← String.toList_inj, hfront]
        simp
      rw [hslash, parts_append_slash, parts_slash, parts_of_isName h]
  · rw [parts_append_slash, parts_of_isName h]

theorem parts_foldl_join (h : ∀ n ∈ names, IsName n) :
    parts (names.foldl join dir) = parts dir ++ names := by
  induction names generalizing dir with
  | nil => exact (List.append_nil _).symm
  | cons n names ih =>
    rw [List.forall_mem_cons] at h
    rw [List.foldl_cons, ih h.2, parts_join h.1, List.append_assoc]
    rfl

theorem foldl_join_injOn {names' : List String} (h : ∀ n ∈ names, IsName n)
    (h' : ∀ n ∈ names', IsName n) (heq : names.foldl join dir = names'.foldl join dir) :
    names = names' := by
  have hparts := congrArg parts heq
  rw [parts_foldl_join h, parts_foldl_join h'] at hparts
  exact List.append_cancel_left hparts

/-- The last name tells the extension. -/
theorem extension?_foldl_join (h : ∀ n ∈ names, IsName n) (hne : names ≠ []) :
    extension? (names.foldl join dir) = names.getLast?.bind nameExtension? := by
  have hlast : fileName? (names.foldl join dir) = names.getLast? := by
    have hparts : (parts (names.foldl join dir)).getLast? = some (names.getLast hne) := by
      rw [parts_foldl_join h, List.getLast?_append, List.getLast?_eq_some_getLast hne]
      rfl
    rw [fileName?, hparts, List.getLast?_eq_some_getLast hne]
    exact if_neg (h _ (List.getLast_mem hne)).2.2.2
  rw [extension?, hlast]

/-! ## Names between slashes -/

theorem join_append (dir front back : String) :
    join dir (front ++ back) = join dir front ++ back := by
  rw [join, join]
  split <;> simp only [String.append_assoc]

/-- A path that ends in a name gets a slash behind it. -/
theorem join_join (h : IsName name) (dir path : String) :
    join (join dir name) path = join dir name ++ "/" ++ path := by
  obtain ⟨front, hfront⟩ : ∃ front, join dir name = front ++ name := by
    rw [join]
    split <;> exact ⟨_, rfl⟩
  have hne := toList_ne_nil_of_isName h
  rw [hfront, join, if_neg]
  rw [Bool.or_eq_true, decide_eq_true_eq, not_or]
  constructor
  · intro hempty
    have hnil := congrArg String.toList (String.isEmpty_iff.mp hempty)
    rw [String.toList_append] at hnil
    exact hne (List.append_eq_nil_iff.mp hnil).2
  · intro hlast
    rw [String.toList_append, List.getLast?_append, List.getLast?_eq_some_getLast hne] at hlast
    exact h.2.1 (Option.some.inj hlast ▸ List.getLast_mem hne)

/-- Joining names one by one is joining them with slashes. -/
theorem foldl_join (h : ∀ n ∈ names, IsName n) (hne : names ≠ []) (dir : String) :
    names.foldl join dir = join dir ("/".intercalate names) := by
  induction names generalizing dir with
  | nil => exact absurd rfl hne
  | cons n names ih =>
    rw [List.forall_mem_cons] at h
    rw [List.foldl_cons]
    cases names with
    | nil => rw [String.intercalate_singleton, List.foldl_nil]
    | cons m names =>
      rw [ih h.2 (List.cons_ne_nil m names), join_join h.1, String.intercalate_cons_cons,
        join_append, join_append]

/-- Joined to nothing, they are the names between slashes. -/
theorem foldl_join_empty (h : ∀ n ∈ names, IsName n) :
    names.foldl join "" = "/".intercalate names := by
  cases names with
  | nil => rfl
  | cons n names =>
    rw [foldl_join h (List.cons_ne_nil n names), join]
    exact String.empty_append

theorem withoutHere_intercalate (h : ∀ n ∈ names, IsName n) :
    withoutHere ("/".intercalate names) = "/".intercalate names := by
  cases names with
  | nil => rfl
  | cons n names =>
    have hsplit : ("/".intercalate (n :: names)).toList.splitOn '/' =
        (n :: names).map String.toList := by
      rw [String.toList_intercalate]
      refine List.splitOn_intercalate '/' ?_ (List.cons_ne_nil _ _)
      exact List.forall_mem_map.mpr fun m hm => (h m hm).2.1
    -- a first part `.` would be the first name
    have hdot (rest : List (List Char)) : ['.'] :: rest ≠ (n :: names).map String.toList := by
      intro heq
      have hn : n = "." := String.toList_inj.mp (List.cons.inj heq).1.symm
      exact (h n List.mem_cons_self).2.2.1 hn
    rw [withoutHere]
    split
    · rename_i htext
      rw [htext] at hsplit
      exact absurd hsplit (hdot _)
    · rename_i s htext
      have hfront := List.splitOn_append_cons_self (a := '/') ['.'] s
      rw [htext] at hsplit
      exact absurd (hfront.symm.trans hsplit) (hdot _)
    · rfl

end GrowthScan.Path
