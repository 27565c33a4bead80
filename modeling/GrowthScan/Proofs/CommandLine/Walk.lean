import GrowthScan.CommandLine.Run
import GrowthScan.Proofs.Path.Names
import Mathlib.Data.String.Basic

/-!
# What a walk finds

A walk lists the files that the directory holds (`Entry.HasFile`), of which the name
tells a language and no pattern describes the way there, in the order of the names
on the way. The lists of names in this order, each shorter one before its
continuations, are the entries of the tree depth first.

`Entry.exists_found` says so of an entry anywhere in a walk, by induction over the
tree, and `CommandLine.operand_directory` of a whole one: there the way starts at the
root, which the empty path stands for.
-/

namespace GrowthScan

theorem sortByName_map {α β : Type} (f : String × α → β) (items : List (String × α)) :
    sortByName (items.map fun p => (p.1, f p)) = (sortByName items).map fun p => (p.1, f p) := by
  rw [sortByName, sortByName]
  exact (List.map_mergeSort (f := fun p : String × α => (p.1, f p)) fun _ _ _ _ => rfl).symm

theorem mem_sortByName {α : Type} {items : List (String × α)} {p : String × α} :
    p ∈ sortByName items ↔ p ∈ items :=
  List.mem_mergeSort

/-- Different names are sorted strictly. -/
theorem pairwise_sortByName {α : Type} {items : List (String × α)}
    (h : (items.map (·.1)).Nodup) : (sortByName items).Pairwise fun p q => p.1 < q.1 := by
  have hle : (sortByName items).Pairwise fun p q => decide (p.1 ≤ q.1) = true := by
    refine List.pairwise_mergeSort ?_ ?_ items
    · intro a b c hab hbc
      exact decide_eq_true ((of_decide_eq_true hab).trans (of_decide_eq_true hbc))
    · intro a b
      simpa using le_total a.1 b.1
  have hne : (sortByName items).Pairwise fun p q => p.1 ≠ q.1 := by
    rw [← List.pairwise_map (f := Prod.fst)]
    exact ((List.mergeSort_perm items _).map _).nodup_iff.mpr h
  exact hle.imp₂ (fun p q hle hne => lt_of_le_of_ne (of_decide_eq_true hle) hne) hne

/-- Items in the strict order of their names are what they are sorted to. -/
theorem sortByName_eq_of_perm {α : Type} {items sorted : List (String × α)}
    (hperm : sorted.Perm items) (hsorted : (sorted.map (·.1)).Pairwise (· < ·)) :
    sortByName items = sorted := by
  have hnodup : (items.map (·.1)).Nodup :=
    (hperm.map _).nodup_iff.mp (hsorted.imp fun h => h.ne)
  rw [List.pairwise_map] at hsorted
  exact ((List.mergeSort_perm items _).trans hperm.symm).eq_of_pairwise
    (fun _ _ _ _ hab hba => absurd hba hab.asymm) (pairwise_sortByName hnodup) hsorted

namespace Entry

/-- A tree as there are on disks: the entries of a directory have names, each its own. -/
inductive WellFormed : Entry → Prop where
  | file (content : Except FileError ByteArray) : WellFormed (.file content)
  | directory {entries : List (String × Entry)} (hnodup : (entries.map (·.1)).Nodup)
      (hname : ∀ e ∈ entries, Path.IsName e.1) (hentry : ∀ e ∈ entries, WellFormed e.2) :
      WellFormed (.directory entries)
  | other : WellFormed .other

/-- The names lead to a regular file, through directories only. -/
inductive HasFile : Entry → List String → Prop where
  | file (content : Except FileError ByteArray) : HasFile (.file content) []
  | directory {entries : List (String × Entry)} {name : String} {entry : Entry}
      {names : List String} (hmem : (name, entry) ∈ entries) (h : HasFile entry names) :
      HasFile (.directory entries) (name :: names)

theorem hasFile_file_iff {content : Except FileError ByteArray} {names : List String} :
    HasFile (.file content) names ↔ names = [] := by
  constructor
  · rintro ⟨⟩
    rfl
  · rintro rfl
    exact .file content

theorem hasFile_directory_iff {entries : List (String × Entry)} {names : List String} :
    HasFile (.directory entries) names ↔
      ∃ e ∈ entries, ∃ rest, names = e.1 :: rest ∧ HasFile e.2 rest := by
  constructor
  · rintro (_ | @⟨_, name, entry, rest, hmem, h⟩)
    exact ⟨(name, entry), hmem, rest, rfl, h⟩
  · rintro ⟨e, hmem, rest, rfl, h⟩
    exact .directory hmem h

theorem not_hasFile_other {names : List String} : ¬HasFile .other names := nofun

theorem HasFile.isName {entry : Entry} {names : List String} (h : entry.HasFile names)
    (hw : entry.WellFormed) : ∀ n ∈ names, Path.IsName n := by
  induction h with
  | file content => exact fun n hn => absurd hn List.not_mem_nil
  | directory hmem _ ih =>
    cases hw with
    | directory _ hname hentry =>
      exact List.forall_mem_cons.mpr ⟨hname _ hmem, ih (hentry _ hmem)⟩

/-! ## One step of a walk -/

theorem filesByName_eq_map (globs : List Glob) (path relative : String)
    (entries : List (String × Entry)) :
    filesByName globs path relative entries = entries.map fun e =>
      (e.1, e.2.sourceFiles globs (Path.join path e.1) (Path.join relative e.1)) := by
  induction entries with
  | nil => rw [filesByName, List.map_nil]
  | cons e entries ih => rw [filesByName, ih, List.map_cons]

/-- A directory that is not ignored has the files of its entries, by their names. -/
theorem sourceFiles_directory {globs : List Glob} {relative : String}
    (h : isIgnored globs relative = false) (path : String) (entries : List (String × Entry)) :
    sourceFiles globs path relative (.directory entries) =
      (sortByName entries).flatMap fun e =>
        e.2.sourceFiles globs (Path.join path e.1) (Path.join relative e.1) := by
  rw [sourceFiles, if_neg (by rw [h]; exact Bool.false_ne_true), filesByName_eq_map,
    sortByName_map, List.flatMap_map]

theorem sourceFiles_of_isIgnored {globs : List Glob} {relative : String}
    (h : isIgnored globs relative = true) (path : String) (entry : Entry) :
    sourceFiles globs path relative entry = [] := by
  cases entry with
  | file content => rw [sourceFiles, if_pos h]
  | directory entries => rw [sourceFiles, if_pos h]
  | other => rw [sourceFiles]

/-! ## Walks -/

/-- The names lead to a file of the language, and no place on the way is ignored. -/
def Lists (globs : List Glob) (path relative : String) (entry : Entry) (names : List String)
    (language : Language) : Prop :=
  entry.HasFile names ∧ Language.ofPath? (names.foldl Path.join path) = some language ∧
    ∀ front, front <+: names → isIgnored globs (front.foldl Path.join relative) = false

/-- The found are what is listed, in the order of the names. -/
structure Found (globs : List Glob) (path relative : String) (entry : Entry)
    (found : List (List String × Language)) : Prop where
  pairwise : (found.map (·.1)).Pairwise (· < ·)
  mem_iff : ∀ p, p ∈ found ↔ Lists globs path relative entry p.1 p.2
  sourceFiles_eq : entry.sourceFiles globs path relative =
    found.map fun p => ⟨p.1.foldl Path.join path, p.2⟩

theorem lists_directory_iff {globs : List Glob} {path relative : String}
    {entries : List (String × Entry)} {names : List String} {language : Language}
    (h : isIgnored globs relative = false) :
    Lists globs path relative (.directory entries) names language ↔
      ∃ e ∈ entries, ∃ rest, names = e.1 :: rest ∧
        Lists globs (Path.join path e.1) (Path.join relative e.1) e.2 rest language := by
  simp only [Lists, hasFile_directory_iff]
  constructor
  · rintro ⟨⟨e, he, rest, rfl, hfile⟩, hlanguage, hfront⟩
    refine ⟨e, he, rest, rfl, hfile, hlanguage, fun front hprefix => ?_⟩
    exact hfront (e.1 :: front) (List.cons_prefix_cons.mpr ⟨rfl, hprefix⟩)
  · rintro ⟨e, he, rest, rfl, hfile, hlanguage, hfront⟩
    refine ⟨⟨e, he, rest, rfl, hfile⟩, hlanguage, fun front hprefix => ?_⟩
    cases front with
    | nil => exact h
    | cons n front =>
      obtain ⟨rfl, hrest⟩ := List.cons_prefix_cons.mp hprefix
      exact hfront front hrest

theorem found_nil {globs : List Glob} {path relative : String} {entry : Entry}
    (h : entry.sourceFiles globs path relative = [])
    (hlists : ∀ names language, ¬Lists globs path relative entry names language) :
    Found globs path relative entry [] where
  pairwise := List.Pairwise.nil
  mem_iff p := ⟨fun hp => absurd hp List.not_mem_nil, fun hp => absurd hp (hlists p.1 p.2)⟩
  sourceFiles_eq := h

theorem found_of_isIgnored {globs : List Glob} {relative : String}
    (h : isIgnored globs relative = true) (path : String) (entry : Entry) :
    Found globs path relative entry [] := by
  refine found_nil (sourceFiles_of_isIgnored h path entry) fun names language hlists => ?_
  have hstart := hlists.2.2 [] List.nil_prefix
  rw [List.foldl_nil, h] at hstart
  cases hstart

theorem found_file {globs : List Glob} {relative : String} (h : isIgnored globs relative = false)
    (path : String) (content : Except FileError ByteArray) :
    Found globs path relative (.file content)
      ((Language.ofPath? path).toList.map fun language => ([], language)) where
  pairwise := by cases Language.ofPath? path <;> simp
  mem_iff := by
    rintro ⟨names, language⟩
    simp only [Lists, hasFile_file_iff, List.mem_map, Option.mem_toList, Prod.mk.injEq]
    constructor
    · rintro ⟨l, hl, rfl, rfl⟩
      refine ⟨rfl, hl, fun front hfront => ?_⟩
      rw [List.prefix_nil.mp hfront]
      exact h
    · rintro ⟨rfl, hl, -⟩
      exact ⟨language, hl, rfl, rfl⟩
  sourceFiles_eq := by
    rw [sourceFiles, if_neg (by rw [h]; exact Bool.false_ne_true), List.map_map]
    rfl

theorem found_directory {globs : List Glob} {relative : String}
    (h : isIgnored globs relative = false) {path : String} {entries : List (String × Entry)}
    (hnodup : (entries.map (·.1)).Nodup) {found : String × Entry → List (List String × Language)}
    (hfound : ∀ e ∈ entries,
      Found globs (Path.join path e.1) (Path.join relative e.1) e.2 (found e)) :
    Found globs path relative (.directory entries)
      ((sortByName entries).flatMap fun e => (found e).map fun p => (e.1 :: p.1, p.2)) where
  pairwise := by
    rw [List.map_flatMap, List.pairwise_flatMap]
    constructor
    · intro e he
      have hcons : ((found e).map fun p => (e.1 :: p.1, p.2)).map (·.1) =
          ((found e).map (·.1)).map (e.1 :: ·) := by rw [List.map_map, List.map_map]; rfl
      rw [hcons]
      exact (hfound e (mem_sortByName.mp he)).pairwise.map _ fun _ _ h =>
        List.cons_lt_cons_iff.mpr (.inr ⟨rfl, h⟩)
    · refine (pairwise_sortByName hnodup).imp fun {a b} hab x hx y hy => ?_
      simp only [List.map_map, List.mem_map, Function.comp_apply] at hx hy
      obtain ⟨p, -, rfl⟩ := hx
      obtain ⟨q, -, rfl⟩ := hy
      exact List.cons_lt_cons_iff.mpr (.inl hab)
  mem_iff := by
    rintro ⟨names, language⟩
    rw [lists_directory_iff h]
    simp only [List.mem_flatMap, mem_sortByName, List.mem_map, Prod.mk.injEq]
    constructor
    · rintro ⟨e, he, p, hp, rfl, rfl⟩
      exact ⟨e, he, p.1, rfl, ((hfound e he).mem_iff p).mp hp⟩
    · rintro ⟨e, he, rest, rfl, hlists⟩
      exact ⟨e, he, (rest, language), ((hfound e he).mem_iff (rest, language)).mpr hlists, rfl, rfl⟩
  sourceFiles_eq := by
    rw [sourceFiles_directory h, List.map_flatMap]
    refine List.flatMap_congr fun e he => ?_
    rw [(hfound e (mem_sortByName.mp he)).sourceFiles_eq, List.map_map]
    rfl

/-- Whatever the entry is, its files are found where its walk starts. -/
theorem exists_found {entry : Entry} (hw : entry.WellFormed) (globs : List Glob)
    (path relative : String) : ∃ found, Found globs path relative entry found := by
  induction hw generalizing path relative with
  | file content =>
    cases h : isIgnored globs relative with
    | true => exact ⟨_, found_of_isIgnored h path _⟩
    | false => exact ⟨_, found_file h path content⟩
  | other => exact ⟨[], found_nil (by rw [sourceFiles]) fun _ _ h => not_hasFile_other h.1⟩
  | @directory entries hnodup _ _ ih =>
    cases h : isIgnored globs relative with
    | true => exact ⟨_, found_of_isIgnored h path _⟩
    | false =>
      have hfound (e : String × Entry) : ∃ found, e ∈ entries →
          Found globs (Path.join path e.1) (Path.join relative e.1) e.2 found := by
        by_cases he : e ∈ entries
        · obtain ⟨found, hfound⟩ := ih e he (Path.join path e.1) (Path.join relative e.1)
          exact ⟨found, fun _ => hfound⟩
        · exact ⟨[], fun hmem => absurd hmem he⟩
      choose found hfound using hfound
      exact ⟨_, found_directory h hnodup hfound⟩

theorem HasFile.ne_nil {entries : List (String × Entry)} {names : List String}
    (h : HasFile (.directory entries) names) : names ≠ [] := by
  obtain ⟨e, -, rest, rfl, -⟩ := hasFile_directory_iff.mp h
  exact List.cons_ne_nil e.1 rest

end Entry

/-- A path of names is looked up among the patterns as it is. -/
theorem isIgnored_foldl_join {globs : List Glob} {names : List String}
    (h : ∀ n ∈ names, Path.IsName n) :
    isIgnored globs (names.foldl Path.join "") = false ↔
      ∀ g ∈ globs, g.isMatch ("/".intercalate names) = false := by
  rw [isIgnored, Path.foldl_join_empty h, Path.withoutHere_intercalate h]
  simp only [List.any_eq_false, Bool.not_eq_true]

/-- What is listed of a whole directory, by the names alone. -/
theorem Entry.lists_root_iff {globs : List Glob} {root : String} {entries : List (String × Entry)}
    {names : List String} {language : Language} (hw : (Entry.directory entries).WellFormed) :
    Lists globs root "" (.directory entries) names language ↔
      HasFile (.directory entries) names ∧
      (names.getLast?.bind Path.nameExtension?).bind Language.ofExtension? = some language ∧
      ∀ front, front <+: names → ∀ g ∈ globs, g.isMatch ("/".intercalate front) = false := by
  refine and_congr_right fun hfile => ?_
  have hname := hfile.isName hw
  refine and_congr ?_ (forall_congr' fun front => imp_congr_right fun hfront => ?_)
  · rw [Language.ofPath?, Path.extension?_foldl_join hname hfile.ne_nil]
  · exact isIgnored_foldl_join fun n hn => hname n (hfront.subset hn)

namespace CommandLine

/-- A directory stands for its files, each once and depth first with the entries of each directory
by their names: those that are reached from it without links, whose own name tells a language, and
of which no pattern describes a place on the way, the directory itself, which is the empty path,
and the file included. The language asked for wins over the file's own. -/
theorem operand_directory (disk : Disk) (globs : List Glob) (asked? : Option Language)
    (fallback : Language) (root : String) (entries : List (String × Entry)) (hroot : root ≠ "-")
    (hdisk : disk root = .ok (.directory entries)) (hw : (Entry.directory entries).WellFormed) :
    ∃ found : List (List String × Language),
      (found.map (·.1)).Pairwise (· < ·) ∧
      (∀ names language, (names, language) ∈ found ↔
        (Entry.directory entries).HasFile names ∧
        (names.getLast?.bind Path.nameExtension?).bind Language.ofExtension? = some language ∧
        ∀ front, front <+: names → ∀ g ∈ globs, g.isMatch ("/".intercalate front) = false) ∧
      (operand disk globs asked? fallback root).all = (found.map fun p =>
        ⟨some (Path.join root ("/".intercalate p.1)), asked?.getD p.2⟩) ∧
      ((operand disk globs asked? fallback root).all.map (·.path?)).Nodup := by
  obtain ⟨found, hfound⟩ := Entry.exists_found hw globs root ""
  have hmem (p : List String × Language) (hp : p ∈ found) :=
    (Entry.lists_root_iff hw).mp ((hfound.mem_iff p).mp hp)
  have hname (p : List String × Language) (hp : p ∈ found) : ∀ n ∈ p.1, Path.IsName n :=
    (hmem p hp).1.isName hw
  have hall : (operand disk globs asked? fallback root).all =
      found.map fun p => ⟨some (p.1.foldl Path.join root), asked?.getD p.2⟩ := by
    rw [operand, if_neg hroot, hdisk]
    simp only [Operand.all, walk, hfound.sourceFiles_eq, List.map_map]
    rfl
  refine ⟨found, hfound.pairwise, fun names language => ?_, ?_, ?_⟩
  · rw [hfound.mem_iff, Entry.lists_root_iff hw]
  · rw [hall]
    refine List.map_congr_left fun p hp => ?_
    rw [Path.foldl_join (hname p hp) (hmem p hp).1.ne_nil]
  · rw [hall, List.map_map]
    have hnodup : (found.map (·.1)).Nodup := hfound.pairwise.imp fun h => h.ne
    rw [List.Nodup, List.pairwise_map] at hnodup ⊢
    refine hnodup.imp_of_mem fun {p q} hp hq hne heq => hne ?_
    exact Path.foldl_join_injOn (hname p hp) (hname q hq) (Option.some.inj heq)

/-- A tree with a link, a file of no language and a directory whose contents are ignored. -/
theorem operand_directory_tree :
    let file : Entry := .file (.ok "".toUTF8)
    let entries : List (String × Entry) :=
      [("b.PY", file), ("l.c", .other), ("t", .directory [("x.c", file)]),
        ("a", .directory [("x.c", file), ("x.txt", file)])]
    let globs : List Glob := [⟨[.literal 't', .deepBack]⟩]
    let disk : Disk := .ofList [("src", .ok (.directory entries))]
    (operand disk globs none .java "src").all.map (fun i => (i.path?, i.language)) =
      [(some "src/a/x.c", .c), (some "src/b.PY", .python)] ∧
    "src" ≠ "-" ∧ disk "src" = .ok (.directory entries) ∧
    (Entry.directory entries).WellFormed ∧
    ∃ found : List (List String × Language),
      (found.map (·.1)).Pairwise (· < ·) ∧
      (∀ names language, (names, language) ∈ found ↔
        (Entry.directory entries).HasFile names ∧
        (names.getLast?.bind Path.nameExtension?).bind Language.ofExtension? = some language ∧
        ∀ front, front <+: names → ∀ g ∈ globs, g.isMatch ("/".intercalate front) = false) ∧
      (operand disk globs none .java "src").all = (found.map fun p =>
        ⟨some (Path.join "src" ("/".intercalate p.1)), (none : Option Language).getD p.2⟩) ∧
      ((operand disk globs none .java "src").all.map (·.path?)).Nodup := by
  intro file entries globs disk
  have hw : (Entry.directory entries).WellFormed := by
    refine .directory (by decide) (by decide) ?_
    simp only [entries, List.forall_mem_cons]
    refine ⟨.file _, .other, .directory (by decide) (by decide) ?_,
      .directory (by decide) (by decide) ?_, fun _ h => absurd h List.not_mem_nil⟩
    · exact List.forall_mem_singleton.mpr (.file _)
    · exact List.forall_mem_cons.mpr ⟨.file _, List.forall_mem_singleton.mpr (.file _)⟩
  have hsorted : sortByName entries =
      [("a", .directory [("x.c", file), ("x.txt", file)]), ("b.PY", file), ("l.c", .other),
        ("t", .directory [("x.c", file)])] :=
    sortByName_eq_of_perm (List.perm_append_singleton _ _).symm (by decide)
  have ha : Entry.sourceFiles globs (Path.join "src" "a") (Path.join "" "a")
      (.directory [("x.c", file), ("x.txt", file)]) = [⟨"src/a/x.c", .c⟩] := by
    rw [Entry.sourceFiles_directory (by decide +kernel),
      sortByName_eq_of_perm (.refl _) (by decide)]
    decide +kernel
  have ht : Entry.sourceFiles globs (Path.join "src" "t") (Path.join "" "t")
      (.directory [("x.c", file)]) = [] := by
    rw [Entry.sourceFiles_directory (by decide +kernel),
      sortByName_eq_of_perm (.refl _) (by decide)]
    decide +kernel
  have hwalk : walk globs "src" (.directory entries) =
      [⟨"src/a/x.c", .c⟩, ⟨"src/b.PY", .python⟩] := by
    rw [walk, Entry.sourceFiles_directory (by decide +kernel), hsorted]
    simp only [List.flatMap_cons, List.flatMap_nil, ha, ht]
    decide +kernel
  have hdisk : disk "src" = .ok (.directory entries) := rfl
  have hlisted : (operand disk globs none .java "src").all.map (fun i => (i.path?, i.language)) =
      [(some "src/a/x.c", .c), (some "src/b.PY", .python)] := by
    rw [operand, if_neg (by decide), hdisk]
    simp only [Operand.all, hwalk]
    rfl
  exact ⟨hlisted, by decide, hdisk, hw,
    operand_directory disk globs none .java "src" entries (by decide) hdisk hw⟩

end CommandLine

end GrowthScan
